import MethodMacros.Host.Basic

/-!
# Arranging a host

A host is arranged before a program is run on it: directories, files, links and tools are put where
the program is to find them.  Unlike the requests of a program, an arrangement makes all directories
that it needs, and can set what a program only reads.
-/

namespace MethodMacros

/-- One change to a host that does not come from a program. -/
inductive Arrangement where
  | directory (path : String)
  | file (path : String) (content : List UInt8) (modified : Option Int)
  | link (path target : String)
  | permissions (path : String) (mode : Nat)
  | modified (path : String) (time : Int)
  | removal (path : String)
  | umask (mask : Nat)
  | tool (path : String) (behaviour : Behaviour)
  deriving DecidableEq, Repr

namespace Host

/-- The permissions of tools. -/
def toolMode : Nat := 0o755

/-- The files of a host after a change, or why it cannot be made. -/
def arrangeFiles (h : Host) : Arrangement → Except Errno FileSystem
  | .directory path => h.files.makeDirectories h.folder h.umask (.ofString path)
  | .file path content modified => do
      let files ← h.files.makeDirectories h.folder h.umask (Path.ofString path).parent
      let files ← files.writeFile h.folder h.umask h.clock path content
      match modified with
      | some time => files.setModified h.folder path time
      | none => return files
  | .link path target => do
      let files ← h.files.makeDirectories h.folder h.umask (Path.ofString path).parent
      files.makeLink h.folder path target
  | .permissions path mode => h.files.setMode h.folder path mode
  | .modified path time => h.files.setModified h.folder path time
  | .removal path => h.files.removeTree h.folder path
  | .umask _ => .ok h.files
  | .tool path behaviour => do
      let files ← h.files.makeDirectories h.folder h.umask (Path.ofString path).parent
      let files ← files.writeFile h.folder h.umask h.clock path []
      let files ← files.setMode h.folder path toolMode
      files.setBehaviour h.folder path behaviour

/-- A host after a change.  A change that cannot be made leaves the host as it is. -/
def arrange (h : Host) (a : Arrangement) : Host :=
  match h.arrangeFiles a with
  | .ok files =>
      let umask := match a with
        | .umask mask => Mask.ofNat mask
        | _ => h.umask
      { h with files := files, umask := umask, clock := h.clock + tick }
  | .error _ => h

/-- What lies below the working directory, by the paths from there. -/
def listing (h : Host) : List (String × Entry) := h.files.listing h.folder

end Host

end MethodMacros
