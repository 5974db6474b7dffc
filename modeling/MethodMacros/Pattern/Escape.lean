import MethodMacros.Pattern.Basic
import MethodMacros.Pattern.Source
import MethodMacros.Text.CharacterName

/-!
# Escapes

A backslash takes away the special meaning of the next character, or gives it one: a control
character, a code point by number or name, a named class, a place in the line, or a reference to a
group.  Letters that have no such meaning are reserved.  Inside a class of characters, places and
references have no meaning, and b is the backspace.
-/

namespace MethodMacros.Pattern

open MethodMacros.Text

/-- What an escape stands for.  A reference is kept as it is written, since the length of its text
tells where a fault lies. -/
inductive Escape where
  | point (code : Nat)
  | kind (k : Kind) (negated : Bool)
  | place (a : Anchor)
  | reference (digits : List Char)
  deriving DecidableEq, Repr

/-- The control characters that have a letter. -/
def controlEscape? : Char → Option Nat
  | 'a' => some 7
  | 'b' => some 8
  | 'f' => some 12
  | 'n' => some 10
  | 'r' => some 13
  | 't' => some 9
  | 'v' => some 11
  | '\\' => some 92
  | _ => none

/-- The named classes that have a letter. -/
def kindEscape? : Char → Option (Kind × Bool)
  | 'd' => some (.digit, false)
  | 'D' => some (.digit, true)
  | 's' => some (.blank, false)
  | 'S' => some (.blank, true)
  | 'w' => some (.word, false)
  | 'W' => some (.word, true)
  | _ => none

/-- The places that have a letter. -/
def anchorEscape? (modes : Modes) : Char → Option Anchor
  | 'A' => some .textStart
  | 'Z' => some .textEnd
  | 'b' => some (.wordBoundary modes.ascii)
  | 'B' => some (.noWordBoundary modes.ascii)
  | _ => none

/-- A digit of the octal system. -/
def isOctal (c : Char) : Bool := '0' ≤ c && c ≤ '7'

/-- A digit of the hexadecimal system. -/
def isHex (c : Char) : Bool :=
  c.isDigit || ('a' ≤ c && c ≤ 'f') || ('A' ≤ c && c ≤ 'F')

/-- The value of a digit of a system up to the hexadecimal one. -/
def digitValue (c : Char) : Nat :=
  if c.isDigit then c.toNat - 48
  else if 'a' ≤ c then c.toNat - 87
  else c.toNat - 55

/-- The number that digits give in a system with a base. -/
def numberOf (base : Nat) (digits : List Char) : Nat :=
  digits.foldl (fun n c => n * base + digitValue c) 0

/-- Fails with a fault that shows the escape and lies where the escape starts. -/
def failAtEscape {α : Type} (fault : String → Fault) (escape : List Char) : Reader α :=
  Reader.fail (fault (String.ofList escape)) escape.length

/-- A code point given by exactly `width` hexadecimal digits after the letter. -/
def hexEscape (letter : Char) (width : Nat) : Reader Nat := do
  let digits ← Reader.upTo isHex width
  let escape := '\\' :: letter :: digits
  if digits.length = width then
    let code := numberOf 16 digits
    if code ≤ 0x10FFFF then return code else failAtEscape .badEscape escape
  else failAtEscape .incompleteEscape escape

/-- A code point given by its name between braces. -/
def namedEscape : Reader Nat := do
  if ← Reader.accept '\x7b' then
    let name ← Reader.untilTerminator '\x7d' "character name"
    match namedCharacter? name with
    | some code => return code
    | none => Reader.fail (.undefinedCharacter (String.ofList name)) (name.length + 4)
  else Reader.fail (.missing "\x7b")

/-- A code point given by number or name, for the letters that announce one. -/
def codeEscape? (letter : Char) : Option (Reader Nat) :=
  match letter with
  | 'x' => some (hexEscape 'x' 2)
  | 'u' => some (hexEscape 'u' 4)
  | 'U' => some (hexEscape 'U' 8)
  | 'N' => some namedEscape
  | _ => none

/-- Checks that a code point given in octal digits fits into a byte. -/
def octalEscape (digits : List Char) : Reader Nat := do
  let code := numberOf 8 digits
  if code ≤ 0o377 then return code else failAtEscape .octalTooLarge ('\\' :: digits)

/-- An escaped character that stands for itself, unless it is a letter. -/
def plainEscape (c : Char) : Reader Nat := do
  if c.isAlpha then failAtEscape .badEscape ['\\', c] else return c.toNat

/-- Reads the rest of an escape inside a class, after the backslash and the character `c`. -/
def classEscape (c : Char) : Reader ClassItem := do
  if let some code := controlEscape? c then return .point code
  if let some (k, negated) := kindEscape? c then return .kind k negated
  if let some code := codeEscape? c then return .point (← code)
  if isOctal c then return .point (← octalEscape (c :: (← Reader.upTo isOctal 2)))
  if c.isDigit then failAtEscape .badEscape ['\\', c]
  return .point (← plainEscape c)

/-- Reads the rest of an escape that starts with a digit other than zero: three octal digits give
a code point, and up to two decimal ones refer to a group. -/
def digitEscape (c : Char) : Reader Escape := do
  match ← Reader.upTo Char.isDigit 1 with
  | [] => return .reference [c]
  | d :: _ =>
      if isOctal c && isOctal d then
        match ← Reader.upTo isOctal 1 with
        | [] => return .reference [c, d]
        | e :: _ => return .point (← octalEscape [c, d, e])
      else return .reference [c, d]

/-- Reads the rest of an escape outside a class, after the backslash and the character `c`. -/
def escape (modes : Modes) (c : Char) : Reader Escape := do
  if let some a := anchorEscape? modes c then return .place a
  if let some (k, negated) := kindEscape? c then return .kind k negated
  if let some code := controlEscape? c then return .point code
  if let some code := codeEscape? c then return .point (← code)
  if c = '0' then return .point (numberOf 8 (← Reader.upTo isOctal 2))
  if c.isDigit then return ← digitEscape c
  return .point (← plainEscape c)

end MethodMacros.Pattern
