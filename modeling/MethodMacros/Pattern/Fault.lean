import MethodMacros.Text.Quoted

/-!
# Faults in a pattern

Why a text is no pattern.  A fault mostly has a place, which is counted in characters; when the
pattern has several lines, its line and column are told too.  Two faults are of another kind: a
number of repetitions beyond all bounds, and two alphabets at once.  These are no faults of form,
and callers do not treat them as such.
-/

namespace MethodMacros.Pattern

open MethodMacros.Text

/-- A fault in the form of a pattern. -/
inductive Fault where
  | trailingBackslash
  | badEscape (text : String)
  | incompleteEscape (text : String)
  | octalTooLarge (text : String)
  | missing (what : String)
  | unterminatedName (terminator : Char)
  | undefinedCharacter (name : String)
  | openGroup
  | groupOfSameLookbehind
  | noSuchGroup (index : Nat)
  | noSuchGroupName (name : String)
  | badGroupName (name : String)
  | badGroupNumber
  | groupNameTaken (name : String) (index previous : Nat)
  | unterminatedClass
  | badRange (first last : String)
  | leastAboveMost
  | nothingToRepeat
  | repeatedRepeat
  | unexpectedEnd
  | unknownExtension (text : String)
  | unterminatedComment
  | unterminatedGroup
  | unbalancedParenthesis
  | tooManyBranches
  | lateGlobalFlags
  | localeFlag
  | clashingAlphabets
  | unknownFlag
  | globalFlagOn
  | globalFlagOff
  | alphabetOff
  | flagOnAndOff
  | lookbehindTooLong
  | lookbehindOfVaryingWidth
  | templateRepeat (operator : String)
  deriving DecidableEq, Repr

/-- The wording of a fault. -/
def Fault.message : Fault → String
  | .trailingBackslash => "bad escape (end of pattern)"
  | .badEscape text => "bad escape " ++ text
  | .incompleteEscape text => "incomplete escape " ++ text
  | .octalTooLarge text => "octal escape value " ++ text ++ " outside of range 0-0o377"
  | .missing what => "missing " ++ what
  | .unterminatedName terminator =>
      "missing " ++ terminator.toString ++ ", unterminated name"
  | .undefinedCharacter name => "undefined character name " ++ quoted name
  | .openGroup => "cannot refer to an open group"
  | .groupOfSameLookbehind =>
      "cannot refer to group defined in the same lookbehind subpattern"
  | .noSuchGroup index => "invalid group reference " ++ toString index
  | .noSuchGroupName name => "unknown group name " ++ quoted name
  | .badGroupName name => "bad character in group name " ++ quoted name
  | .badGroupNumber => "bad group number"
  | .groupNameTaken name index previous =>
      "redefinition of group name " ++ quoted name ++ " as group " ++ toString index ++
        "; was group " ++ toString previous
  | .unterminatedClass => "unterminated character set"
  | .badRange first last => "bad character range " ++ first ++ "-" ++ last
  | .leastAboveMost => "min repeat greater than max repeat"
  | .nothingToRepeat => "nothing to repeat"
  | .repeatedRepeat => "multiple repeat"
  | .unexpectedEnd => "unexpected end of pattern"
  | .unknownExtension text => "unknown extension " ++ text
  | .unterminatedComment => "missing ), unterminated comment"
  | .unterminatedGroup => "missing ), unterminated subpattern"
  | .unbalancedParenthesis => "unbalanced parenthesis"
  | .tooManyBranches => "conditional backref with more than two branches"
  | .lateGlobalFlags => "global flags not at the start of the expression"
  | .localeFlag => "bad inline flags: cannot use 'L' flag with a str pattern"
  | .clashingAlphabets => "bad inline flags: flags 'a', 'u' and 'L' are incompatible"
  | .unknownFlag => "unknown flag"
  | .globalFlagOn => "bad inline flags: cannot turn on global flag"
  | .globalFlagOff => "bad inline flags: cannot turn off global flag"
  | .alphabetOff => "bad inline flags: cannot turn off flags 'a', 'u' and 'L'"
  | .flagOnAndOff => "bad inline flags: flag turned on and off"
  | .lookbehindTooLong => "looks too much behind"
  | .lookbehindOfVaryingWidth => "look-behind requires fixed-width pattern"
  | .templateRepeat operator => "internal: unsupported template operator " ++ operator

/-- Why a pattern cannot be read. -/
inductive ReadError where
  | malformed (fault : Fault) (place : Option Nat)
  | tooManyRepetitions
  | twoAlphabets
  deriving DecidableEq, Repr

/-- The line of a place in a text, counted from one, and its column, counted from one. -/
def lineAndColumn (s : List Char) (place : Nat) : Nat × Nat :=
  let before := s.take place
  (before.count '\n' + 1, (before.reverse.takeWhile (· != '\n')).length + 1)

/-- The wording of an error in the pattern `s`. -/
def ReadError.message (s : String) : ReadError → String
  | .malformed fault none => fault.message
  | .malformed fault (some place) =>
      let text := fault.message ++ " at position " ++ toString place
      if s.toList.contains '\n' then
        let (line, column) := lineAndColumn s.toList place
        text ++ " (line " ++ toString line ++ ", column " ++ toString column ++ ")"
      else text
  | .tooManyRepetitions => "the repetition number is too large"
  | .twoAlphabets => "ASCII and UNICODE flags are incompatible"

end MethodMacros.Pattern
