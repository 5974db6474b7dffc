import MethodMacros.Text.Split

/-!
# Paths

A path is a root and a list of components, read off its text without looking at any file.  Repeated
slashes and components that are a single dot do not count; two dots do, since the directory above is
not known before links are followed.  A path that starts with exactly two slashes is kept apart from
one that starts with a single slash.
-/

namespace MethodMacros

/-- What a path starts from. -/
inductive PathRoot where
  | relative
  | single
  | double
  deriving DecidableEq, Repr

/-- The slashes that a root is written with. -/
def PathRoot.text : PathRoot → String
  | .relative => ""
  | .single => "/"
  | .double => "//"

/-- A path in normal form. -/
structure Path where
  root : PathRoot
  parts : List String
  deriving DecidableEq, Repr

namespace Path

/-- The pieces between the slashes of a path, without empty ones. -/
def components (s : List Char) : List String :=
  ((Text.splitAt '/' s).filter (!·.isEmpty)).map String.ofList

/-- The root of a path. -/
def rootOf : List Char → PathRoot
  | '/' :: '/' :: '/' :: _ => .single
  | '/' :: '/' :: _ => .double
  | '/' :: _ => .single
  | _ => .relative

/-- Reads a path. -/
def ofString (s : String) : Path :=
  ⟨rootOf s.toList, (components s.toList).filter (· != ".")⟩

/-- The text of a path.  The empty path is written as a dot. -/
protected def toString (p : Path) : String :=
  let text := p.root.text ++ "/".intercalate p.parts
  if text = "" then "." else text

instance : ToString Path := ⟨Path.toString⟩

/-- A path seen from another one: a path with a root stays what it is. -/
def append (p q : Path) : Path :=
  match q.root with
  | .relative => ⟨p.root, p.parts ++ q.parts⟩
  | _ => q

instance : Append Path := ⟨append⟩

/-- A path with one more text joined to it. -/
def child (p : Path) (s : String) : Path := p ++ ofString s

/-- The path without its last component. -/
def parent (p : Path) : Path := ⟨p.root, p.parts.dropLast⟩

/-- The last component, or nothing for a root. -/
def name (p : Path) : String := p.parts.getLast?.getD ""

end Path

/-- A name in a directory.  The empty text stands for the working directory. -/
def inDirectory (directory name : String) : String :=
  if directory = "" ∨ directory.toList.getLast? = some '/' then directory ++ name
  else directory ++ "/" ++ name

/-- The search path where none is given. -/
def defaultSearchPath : String := "/bin:/usr/bin"

/-- The paths that a name may stand for, in the order of a search path, which is a list of
directories between colons. -/
def candidates (searchPath name : String) : List String :=
  (Text.splitAt ':' searchPath.toList).map fun directory =>
    inDirectory (String.ofList directory) name

/-- The file that declares a class, below the root of its sources. -/
def sourceFile (className : String) (sourceRoot : Path) : Path :=
  sourceRoot.child
    (String.ofList (className.toList.map fun c => if c = '.' then '/' else c) ++ ".java")

end MethodMacros
