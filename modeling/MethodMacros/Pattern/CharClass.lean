import MethodMacros.Pattern.Escape

/-!
# Classes of characters

Between square brackets stand characters, intervals of characters and named classes.  A closing
bracket that comes first stands for itself, and so does a hyphen that has nothing to its right.  A
class that holds one character and nothing else is that character.
-/

namespace MethodMacros.Pattern

/-- The character or escape that starts with the given token. -/
def classMember : Token → Reader ClassItem
  | .plain c => return .point c.toNat
  | .escaped c => classEscape c

/-- The next token of a class that opened at `start`. -/
def classToken (start : Nat) : Reader Token := do
  match ← Reader.next with
  | some t => return t
  | none => Reader.fail .unterminatedClass ((← Reader.place) - start)

/-- An interval, whose ends have to be characters in ascending order. -/
def classRange (first last : Token) (lo hi : ClassItem) : Reader ClassItem := do
  let bad : Reader ClassItem :=
    Reader.fail (.badRange first.text last.text) (first.chars.length + 1 + last.chars.length)
  match lo, hi with
  | .point a, .point b => if b < a then bad else return .range a b
  | _, _ => bad

/-- Reads the members of a class up to its closing bracket; `n` bounds the number of tokens and
`items` holds the members so far in reverse. -/
def classMembers (start : Nat) : Nat → List ClassItem → Reader (List ClassItem)
  | 0, items => return items.reverse
  | n + 1, items => do
      let t ← classToken start
      if t = .plain ']' && !items.isEmpty then return items.reverse
      let item ← classMember t
      if ← Reader.accept '-' then
        let u ← classToken start
        if u = .plain ']' then return (item :: items).reverse ++ [.point '-'.toNat]
        let last ← classMember u
        classMembers start n ((← classRange t u item last) :: items)
      else classMembers start n (item :: items)

/-- Keeps the first of equal members. -/
def distinctItems (items : List ClassItem) : List ClassItem :=
  (items.foldl (fun seen item => if seen.contains item then seen else item :: seen) []).reverse

/-- Reads a class, after its opening bracket. -/
def charClass : Reader Shape := do
  let start := (← Reader.place) - 1
  let negated ← Reader.accept '^'
  let items ← classMembers start ((← get).tokens.length + 1) []
  match distinctItems items, negated with
  | [.point code], false => return .point code
  | [.point code], true => return .otherThan code
  | distinct, _ => return .oneOf negated distinct

end MethodMacros.Pattern
