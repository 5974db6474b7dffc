import MethodMacros.Report.Log

/-!
# Headers

A header guards itself against double inclusion, and defines two macros for each method: one for its
name and one for its signature, each under the line of the report that it comes from.
-/

namespace MethodMacros.Header

open Report (MethodRecord textOrNone)

/-- The macro that guards the header of a class. -/
def guardMacro (className : String) : String :=
  "_Callbacks_" ++ Naming.guardToken className

/-- The lines before the methods. -/
def opening (className : String) : List String :=
  ["/* DO NOT EDIT THIS FILE - it is machine generated */",
    "/* Header for class " ++ Naming.guardToken className ++ " */",
    "",
    "#ifndef " ++ guardMacro className,
    "#define " ++ guardMacro className,
    ""]

/-- The lines of one method. -/
def methodBlock (r : MethodRecord) : List String :=
  ["/* " ++ r.declarationLine ++ " */",
    "#define " ++ r.macroStem ++ "_NAME \"" ++ r.name ++ "\"",
    "/* " ++ textOrNone r.signatureLine ++ " */",
    "#define " ++ r.macroStem ++ "_SIGNATURE \"" ++ textOrNone r.signature ++ "\"",
    ""]

/-- The line after the methods. -/
def closing (className : String) : String :=
  "#endif //" ++ guardMacro className

/-- All lines of a header. -/
def lines (className : String) (records : List MethodRecord) : List String :=
  opening className ++ records.flatMap methodBlock ++ [closing className]

/-- The text of a header: each of its lines, ended by a line feed. -/
def render (className : String) (records : List MethodRecord) : String :=
  String.join ((lines className records).map (· ++ "\n"))

/-- Why a report gives no header. -/
inductive GenerateError where
  | patterns (error : Report.PatternError)
  | report (fault : Report.Fault)
  deriving DecidableEq, Repr

/-- The wording of an error. -/
def GenerateError.message : GenerateError → String
  | .patterns error => error.message
  | .report fault => fault.message

/-- The records of a report, under the patterns of a configuration. -/
def collect (config : Report.Config) (report : List String) :
    Except GenerateError (List MethodRecord) := do
  let patterns ← config.patterns.mapError .patterns
  (Report.read patterns report).result.mapError .report

/-- The header that a report gives. -/
def generate (config : Report.Config) (report : List String) : Except GenerateError String := do
  return render config.className (← collect config report)

end MethodMacros.Header
