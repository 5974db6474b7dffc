import MethodMacros.Text.Blank

/-!
# Filling lines

A paragraph is a list of words.  Each line takes as many of them as fit, with single spaces between;
a word that fits on no line is cut, after its last hyphen that is not too far right, if there is one
that follows something else than hyphens.
-/

namespace MethodMacros.Text

/-- The words of a text. -/
def wordsFrom (word : List Char) : List Char → List (List Char)
  | [] => if word.isEmpty then [] else [word.reverse]
  | c :: rest =>
      if isAsciiBlank c then
        if word.isEmpty then wordsFrom [] rest else word.reverse :: wordsFrom [] rest
      else wordsFrom (c :: word) rest

/-- The words of a text. -/
def words (s : String) : List (List Char) :=
  wordsFrom [] s.toList

/-- How many characters of a word that is too long go onto a line with room for `room`. -/
def cutAt (room : Nat) (word : List Char) : Nat :=
  let head := word.take room
  let afterHyphen := (head.reverse.dropWhile (· != '-')).length
  if 1 < afterHyphen && (head.take (afterHyphen - 1)).any (· != '-') then afterHyphen else room

/-- Fills lines of the given width; `line` is the current line, and `n` bounds the number of steps.
A word that is longer than a line goes onto the current line as far as it fits, after a space. -/
def fillFrom (width : Nat) : Nat → List Char → List (List Char) → List (List Char)
  | _, line, [] => if line.isEmpty then [] else [line]
  | 0, line, _ => [line]
  | n + 1, line, word :: rest =>
      let joined := if line.isEmpty then word else line ++ ' ' :: word
      if joined.length ≤ width then fillFrom width n joined rest
      else if word.length ≤ width then line :: fillFrom width n [] (word :: rest)
      else
        let used := if line.isEmpty then 0 else line.length + 1
        if width < used then line :: fillFrom width n [] (word :: rest)
        else if width = used then (line ++ [' ']) :: fillFrom width n [] (word :: rest)
        else
          let cut := cutAt (width - used) word
          let full := if line.isEmpty then word.take cut else line ++ ' ' :: word.take cut
          full :: fillFrom width n [] (word.drop cut :: rest)

/-- The lines that a text fills. -/
def wrap (width : Nat) (s : String) : List String :=
  (fillFrom width (2 * s.length + 2) [] (words s)).map String.ofList

end MethodMacros.Text
