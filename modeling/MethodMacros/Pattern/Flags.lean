import MethodMacros.Pattern.Basic
import MethodMacros.Pattern.Source

/-!
# Inline flags

A group may open with letters that switch modes on and, after a hyphen, off.  Closed at once by a
parenthesis they hold for the whole pattern; followed by a colon they hold inside the group.
-/

namespace MethodMacros.Pattern

/-- The letters of flags. -/
def flagLetters : List Char := ['i', 'L', 'm', 's', 'x', 'a', 't', 'u']

/-- The flags of a group, or of the whole pattern. -/
structure Flags where
  on : List Char
  off : List Char
  whole : Bool
  deriving DecidableEq, Repr

/-- The letter of a token, if it is a flag. -/
def Token.flag? : Token → Option Char
  | .plain c => if flagLetters.contains c then some c else none
  | .escaped _ => none

/-- Fails at a token that is no flag: an unknown letter, or the lack of what was due. -/
def failAtFlag {α : Type} (t : Token) (due : String) : Reader α :=
  let isLetter := match t with
    | .plain c => Text.isLetter c
    | .escaped _ => false
  Reader.fail (if isLetter then .unknownFlag else .missing due) t.chars.length

/-- Reads flags that are switched on, from the letter `c` on, up to the token that ends them. -/
def flagsOn : Nat → Char → List Char → Reader (List Char × Char)
  | n, c, on => do
      if c = 'L' then Reader.fail .localeFlag
      let on := c :: on
      if on.contains 'a' && on.contains 'u' && (c = 'a' || c = 'u') then
        Reader.fail .clashingAlphabets
      match ← Reader.next with
      | none => Reader.fail (.missing "-, : or )")
      | some t =>
          match t, t.flag? with
          | .plain ')', _ => return (on, ')')
          | .plain '-', _ => return (on, '-')
          | .plain ':', _ => return (on, ':')
          | _, none => failAtFlag t "-, : or )"
          | _, some d =>
              match n with
              | 0 => return (on, ':')
              | n + 1 => flagsOn n d on

/-- Reads flags that are switched off, from the letter `c` on, up to the colon. -/
def flagsOff : Nat → Char → List Char → Reader (List Char)
  | n, c, off => do
      if c = 'a' ∨ c = 'u' ∨ c = 'L' then Reader.fail .alphabetOff
      let off := c :: off
      match ← Reader.next with
      | none => Reader.fail (.missing ":")
      | some t =>
          match t, t.flag? with
          | .plain ':', _ => return off
          | _, none => failAtFlag t ":"
          | _, some d =>
              match n with
              | 0 => return off
              | n + 1 => flagsOff n d off

/-- Reads the first flag to be switched off, and all that follow. -/
def flagsAfterHyphen : Reader (List Char) := do
  match ← Reader.next with
  | none => Reader.fail (.missing "flag")
  | some t =>
      match t.flag? with
      | none => failAtFlag t "flag"
      | some c => flagsOff (← get).tokens.length c []

/-- Reads flags after the token `c`, which is a flag or a hyphen. -/
def flags (c : Char) : Reader Flags := do
  let (on, ending) ←
    if c = '-' then pure ([], '-') else flagsOn (← get).tokens.length c []
  if ending = ')' then return ⟨on, [], true⟩
  if on.contains 't' then Reader.fail .globalFlagOn 1
  let off ← if ending = '-' then flagsAfterHyphen else pure []
  if off.contains 't' then Reader.fail .globalFlagOff 1
  if on.any off.contains then Reader.fail .flagOnAndOff 1
  return ⟨on, off, false⟩

/-- The modes inside a group with flags. -/
def Flags.apply (f : Flags) (m : Modes) : Modes where
  ignoreCase := (m.ignoreCase || f.on.contains 'i') && !f.off.contains 'i'
  multiline := (m.multiline || f.on.contains 'm') && !f.off.contains 'm'
  dotAll := (m.dotAll || f.on.contains 's') && !f.off.contains 's'
  ascii := if f.on.contains 'u' then false else m.ascii || f.on.contains 'a'

/-- Whether blanks and comments are skipped inside a group with flags. -/
def Flags.applyVerbose (f : Flags) (verbose : Bool) : Bool :=
  (verbose || f.on.contains 'x') && !f.off.contains 'x'

end MethodMacros.Pattern
