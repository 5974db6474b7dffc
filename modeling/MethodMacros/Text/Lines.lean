import MethodMacros.Text.Blank

/-!
# Lines

A report is cut into lines at carriage returns, line feeds and pairs of both, and nowhere else.
The progress of a tool is logged by a wider rule, with the boundaries of all scripts.
-/

namespace MethodMacros.Text

/-- The lines of a report, where `line` holds the start of the current line in reverse.  The
last line needs no terminator, but counts only if it is not empty. -/
def reportLinesFrom (line : List Char) : List Char → List (List Char)
  | [] => if line.isEmpty then [] else [line.reverse]
  | '\r' :: '\n' :: rest => line.reverse :: reportLinesFrom [] rest
  | '\r' :: rest => line.reverse :: reportLinesFrom [] rest
  | '\n' :: rest => line.reverse :: reportLinesFrom [] rest
  | c :: rest => reportLinesFrom (c :: line) rest

/-- The lines of a report, without their terminators. -/
def reportLines (s : String) : List String :=
  (reportLinesFrom [] s.toList).map String.ofList

/-- Writes every line terminator as a single line feed, where `done` holds the text so far in
reverse. -/
def unifyNewlinesFrom (done : List Char) : List Char → List Char
  | [] => done.reverse
  | '\r' :: '\n' :: rest => unifyNewlinesFrom ('\n' :: done) rest
  | '\r' :: rest => unifyNewlinesFrom ('\n' :: done) rest
  | c :: rest => unifyNewlinesFrom (c :: done) rest

/-- A text read from a text file: its lines all end in a single line feed. -/
def unifyNewlines (s : List Char) : List Char :=
  unifyNewlinesFrom [] s

/-- The lines of captured output, where `line` holds the start of the current line in reverse. -/
def outputLinesFrom (line : List Char) : List Char → List (List Char)
  | [] => if line.isEmpty then [] else [line.reverse]
  | '\r' :: '\n' :: rest => line.reverse :: outputLinesFrom [] rest
  | c :: rest =>
      if isLineBoundary c then line.reverse :: outputLinesFrom [] rest
      else outputLinesFrom (c :: line) rest

/-- The lines of captured output, at the line boundaries of all scripts. -/
def outputLines (s : String) : List String :=
  (outputLinesFrom [] s.toList).map String.ofList

end MethodMacros.Text
