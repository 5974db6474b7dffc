import MethodMacros.Pattern.Matching

/-!
# The patterns of a report

A report is understood through three patterns for its lines: one for errors, one for declarations of
methods and one for signatures.  The last two capture something in their first group, so a pattern
without a group cannot serve for them.
-/

namespace MethodMacros

namespace Report

open Pattern (ReadError)

/-- What a pattern is for. -/
inductive LineKind where
  | error
  | name
  | signature
  deriving DecidableEq, Repr

/-- The word for a kind of line. -/
def LineKind.word : LineKind → String
  | .error => "error"
  | .name => "name"
  | .signature => "signature"

/-- Which class is described, and the patterns for the lines of its report. -/
structure Config where
  className : String
  errorPattern : String := "^ERROR:.*$"
  namePattern : String := "^.*\\s+([^.\\s(]+)\\(.*\\)[^()]*;$"
  signaturePattern : String := "^\\s*Signature:\\s+(.+)$"
  deriving DecidableEq, Repr

/-- Why the patterns of a configuration cannot be used. -/
inductive PatternError where
  | unreadable (kind : LineKind) (pattern : String) (error : ReadError)
  | withoutGroup (kind : LineKind) (pattern : String)
  deriving DecidableEq, Repr

/-- The wording of a pattern error.  Errors that are no matter of form speak for themselves. -/
def PatternError.message : PatternError → String
  | .unreadable kind pattern (.malformed fault place) =>
      "Invalid " ++ kind.word ++ " pattern " ++ Text.quoted pattern ++ ": " ++
        (ReadError.malformed fault place).message pattern
  | .unreadable _ pattern error => error.message pattern
  | .withoutGroup kind pattern =>
      "Invalid " ++ kind.word ++ " pattern " ++ Text.quoted pattern ++ ": needs a capturing group"

/-- The patterns of a report, ready for use. -/
structure LinePatterns where
  error : Pattern
  name : Pattern
  signature : Pattern
  deriving Repr

/-- Reads a pattern that need not capture anything. -/
def readPattern (kind : LineKind) (pattern : String) : Except PatternError Pattern :=
  (Pattern.read pattern).mapError (.unreadable kind pattern)

/-- Reads a pattern that has to have a group. -/
def readCapturing (kind : LineKind) (pattern : String) : Except PatternError Pattern := do
  let p ← readPattern kind pattern
  if p.groups = 0 then throw (.withoutGroup kind pattern) else return p

/-- Reads the three patterns, and reports the first that cannot be used. -/
def Config.patterns (config : Config) : Except PatternError LinePatterns := do
  let error ← readPattern .error config.errorPattern
  let name ← readCapturing .name config.namePattern
  let signature ← readCapturing .signature config.signaturePattern
  return ⟨error, name, signature⟩

/-! ## What the patterns say about a line -/

/-- What a line is, as far as it was examined: an error line, or possibly a declaration with the
name that was captured and possibly a signature with the text that was captured.  A line can be
both. -/
structure Sorted where
  isError : Bool
  name : Option (Option String)
  signature : Option (Option String)
  deriving DecidableEq, Repr

/-- Matches a line against the three patterns. -/
def LinePatterns.sort (p : LinePatterns) (line : String) : Sorted where
  isError := (p.error.match? line).isSome
  name := (p.name.match? line).map (·.group? 1)
  signature := (p.signature.match? line).map (·.group? 1)

end Report

end MethodMacros
