import MethodMacros.HeaderFile

/-!
# Finding the tools of a JDK

A JDK is a directory with tools in its subdirectory for binaries.  It is looked for in the places
that two variables name, in this order, and then around the tool that the search path gives.  With
each place its parent is tried too, since a JRE may lie inside a JDK.
-/

namespace MethodMacros.Jdk

/-- Where variables are looked up: in the environment of the process, or in a given one. -/
inductive Environment where
  | process
  | given (settings : List (String × String))
  deriving DecidableEq, Repr

/-- The value of a variable. -/
def valueOf (environment : Environment) (name : String) : Action Failure (Option String) :=
  match environment with
  | .process => Action.request (.variable name)
  | .given settings => return settings.lookup name

/-- Where a tool lies in a JDK. -/
def toolIn (home : Path) (tool : String) : Path :=
  (home.child "bin").child tool

/-- A directory holds the tool. -/
def hasTool (home : Path) (tool : String) : Action Failure Bool :=
  (isFile (toolIn home tool)).mapError .file

/-- The first of several paths that may be executed. -/
def firstRunnable : List String → Action Failure (Option String)
  | [] => return none
  | path :: rest => do
      if ← Action.request (.isRunnable path) then return some path else firstRunnable rest

/-- The search path, which is that of the process where the environment has none. -/
def searchPath (environment : Environment) : Action Failure String := do
  match ← valueOf environment "PATH" with
  | some path => return path
  | none => return (← Action.request (.variable "PATH")).getD defaultSearchPath

/-- The tool that the search path gives.  A name with a slash is not searched for, but taken as it
is; an empty search path gives nothing, and an empty entry in it is the working directory. -/
def onPath (environment : Environment) (tool : String) : Action Failure (Option String) := do
  if tool.toList.contains '/' then firstRunnable [tool]
  else
    let path ← searchPath environment
    if path = "" then return none
    firstRunnable (candidates path tool)

/-- The path of what a path leads to, with all links followed. -/
def resolve (path : Path) : Action Failure Path := do
  match ← Action.request (.resolve (toString path)) with
  | .ok p => return .ofString p
  | .error (.refused _ p _) => throw (.linkCircle p)
  | .error .nullByte => throw (.file .nullByte)

/-- Tries a place and its parent. -/
def atHome (tool : String) (home : Path) : Action Failure (Option Path) := do
  let found (candidate : Path) : Action Failure (Option Path) := do
    Action.log .info ("Using JDK at " ++ toString candidate)
    return some candidate
  if ← hasTool home tool then found home
  else if ← hasTool home.parent tool then found home.parent
  else
    Action.log .debug ("No " ++ tool ++ " under " ++ toString home)
    return none

/-- Tries the place that a variable names.  An empty variable names none. -/
def atVariable (environment : Environment) (tool name : String) :
    Action Failure (Option Path) := do
  match ← valueOf environment name with
  | none | some "" => return none
  | some value => atHome tool (.ofString value)

/-- Tries the place around the tool on the search path. -/
def aroundPath (environment : Environment) (tool : String) : Action Failure (Option Path) := do
  match ← onPath environment tool with
  | none | some "" => return none
  | some path => atHome tool (← resolve (.ofString path)).parent.parent

/-- Finds a JDK that holds a tool. -/
def find (environment : Environment) (tool : String) : Action Failure Path := do
  if let some home ← atVariable environment tool "JAVA_HOME" then return home
  if let some home ← atVariable environment tool "JDK_HOME" then return home
  if let some home ← aroundPath environment tool then return home
  throw (.noJdk tool)

/-- The tool to run: the one that was asked for, which has to exist, or the one of a JDK. -/
def locate (environment : Environment) (tool : String) (explicit : Option Path) :
    Action Failure Path := do
  match explicit with
  | some path =>
      if ← (isFile path).mapError .file then return path else throw (.noTool tool path)
  | none => return toolIn (← find environment tool) tool

end MethodMacros.Jdk
