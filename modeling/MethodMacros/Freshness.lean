import MethodMacros.HeaderFile
import MethodMacros.Time

/-!
# Freshness of a header

A header need not be made again if it is at least as new as the source that its class comes from.  A
file that is missing is never up to date, nor is anything up to date with it.
-/

namespace MethodMacros.Freshness

/-- The time of the last change of a file. -/
def modified (path : Path) : Action FileError Int := do
  return (← attempt (Action.request (.status (toString path)))).modified

/-- Both files exist, and the second is at least as new as the first. -/
def compare (source output : Path) : Action FileError Bool := do
  if !(← isFile source) then return false
  if !(← isFile output) then return false
  return Time.notLater (← modified source) (← modified output)

/-- The output is up to date with its source. -/
def isUpToDate (source output : Path) : Action Failure Bool := do
  let fresh ← (compare source output).mapError .file
  if fresh then
    Action.log .info ("Source file: [" ++ toString source ++ "] is not modified")
  return fresh

end MethodMacros.Freshness
