import MethodMacros.CommandLine.Grammar
import MethodMacros.Text.Integer
import MethodMacros.Text.Wrap

/-!
# Usage and help

What a grammar looks like to a user: one paragraph of usage, and a page of help with a line or more
for each argument.  Both are laid out for a number of columns, of which two stay free.
-/

namespace MethodMacros.CommandLine

/-- A number of spaces. -/
def spaces (n : Nat) : String := String.ofList (List.replicate n ' ')

/-- The columns that texts may fill. -/
def usable (columns : Int) : Int := columns - 2

/-! ## Usage -/

/-- An option as usage shows it, in pieces that stay together on a line. -/
def OptionSpec.usage (o : OptionSpec) : List String :=
  let name := o.names.headD ""
  match o.value, o.required with
  | none, true => [name]
  | none, false => ["[" ++ name ++ "]"]
  | some word, true => [name, word]
  | some word, false => ["[" ++ name ++ " " ++ word ++ "]"]

/-- The names of commands, between braces. -/
def choiceList (choices : List CommandSpec) : String :=
  "\x7b" ++ ",".intercalate (choices.map (·.name)) ++ "\x7d"

/-- The positional argument as usage shows it. -/
def Positional.usage : Positional → List String
  | .value name _ => [name]
  | .command _ _ choices => [choiceList choices, "..."]

/-- Fills lines with pieces; `line` holds the current line in reverse, which takes up `used`
columns, and further lines start after `indent` columns. -/
def fillPieces (width : Int) (indent : Nat) :
    List String → Nat → List String → List (List String)
  | line, _, [] => if line.isEmpty then [] else [line.reverse]
  | line, used, piece :: rest =>
      if width < used + 1 + piece.length && !line.isEmpty then
        line.reverse :: fillPieces width indent [piece] (indent - 1 + piece.length + 1) rest
      else fillPieces width indent (piece :: line) (used + piece.length + 1) rest

/-- The words before the usage. -/
def usageHeading : String := "usage: "

/-- The lines that pieces fill, after an indentation. -/
def pieceLines (width : Int) (indent : Nat) (pieces : List String) : List String :=
  (fillPieces width indent [] (indent - 1) pieces).map fun line =>
    spaces indent ++ " ".intercalate line

/-- The usage after its heading, when it does not fit on one line.  After a short program name
options and positional arguments stand below each other; after a long one they start on a new line.
-/
def Grammar.longUsage (g : Grammar) (width : Int) : String :=
  let optional := g.options.flatMap OptionSpec.usage
  let positional := g.positional.usage
  let heading := usageHeading.length
  let lines :=
    if 4 * (heading + g.program.length : Int) ≤ 3 * width then
      let indent := heading + g.program.length + 1
      let first := fillPieces width indent [] (heading - 1) (g.program :: optional)
      (match first with
        | [] => []
        | line :: rest =>
            " ".intercalate line :: rest.map fun l => spaces indent ++ " ".intercalate l) ++
        pieceLines width indent positional
    else
      let together := pieceLines width heading (optional ++ positional)
      g.program ::
        (if together.length ≤ 1 then together
        else pieceLines width heading optional ++ pieceLines width heading positional)
  "\n".intercalate lines

/-- The usage of a grammar, without a line feed at its end. -/
def Grammar.usageText (g : Grammar) (columns : Int) : String :=
  let width := usable columns
  let oneLine :=
    " ".intercalate (g.program :: g.options.flatMap OptionSpec.usage ++ g.positional.usage)
  if (usageHeading.length + oneLine.length : Int) ≤ width then usageHeading ++ oneLine
  else usageHeading ++ g.longUsage width

/-! ## Help -/

/-- An entry of a page of help: an argument, what it is for, and how far it is indented. -/
structure HelpEntry where
  indent : Nat
  heading : String
  help : String
  deriving DecidableEq, Repr

/-- An option as a page of help shows it. -/
def OptionSpec.heading (o : OptionSpec) : String :=
  ", ".intercalate <| o.names.map fun name =>
    match o.value with
    | none => name
    | some word => name ++ " " ++ word

/-- The entries for the positional argument: one, and for commands one more for each. -/
def Positional.entries : Positional → List HelpEntry
  | .value name help => [⟨2, name, help⟩]
  | .command _ help choices =>
      ⟨2, choiceList choices, help⟩ :: choices.map fun c => ⟨4, c.name, c.help⟩

/-- All entries for options. -/
def Grammar.optionEntries (g : Grammar) : List HelpEntry :=
  g.options.map fun o => ⟨2, o.heading, o.help⟩

/-- The column where the texts of help start. -/
def Grammar.helpColumn (g : Grammar) (width : Int) : Nat :=
  let longest := (g.positional.entries ++ g.optionEntries).foldl
    (fun n entry => max n (entry.heading.length + 2)) 0
  min (longest + 2) (min 24 (max (width - 20) 4).toNat)

/-- The lines of an entry.  The text starts beside the heading, if that leaves two columns free, and
otherwise below it. -/
def HelpEntry.lines (e : HelpEntry) (width : Int) (column : Nat) : List String :=
  let texts := Text.wrap (max (width - column) 11).toNat e.help
  let beside := spaces e.indent ++ e.heading
  if (e.heading.length : Int) ≤ column - e.indent - 2 then
    match texts with
    | [] => [beside]
    | text :: rest =>
        (beside ++ spaces (column - beside.length) ++ text) :: rest.map (spaces column ++ ·)
  else beside :: texts.map (spaces column ++ ·)

/-- A section of a page of help. -/
def helpSection (title : String) (entries : List HelpEntry) (width : Int) (column : Nat) : String :=
  "\n".intercalate ((title ++ ":") :: entries.flatMap fun e => e.lines width column)

/-- The page of help for a grammar. -/
def Grammar.helpText (g : Grammar) (columns : Int) : String :=
  let width := usable columns
  let column := g.helpColumn width
  let description := g.description.map fun d =>
    "\n".intercalate (Text.wrap (max width 11).toNat d)
  let blocks := [g.usageText columns] ++ description.toList ++
    [helpSection "positional arguments" g.positional.entries width column,
      helpSection "options" g.optionEntries width column]
  "\n\n".intercalate blocks ++ "\n"

/-- The columns of the terminal, as a variable tells them.  Without a positive number there are 80.
-/
def columnsOf (setting : Option String) : Int :=
  match setting.bind fun s => Text.integer? s.toList with
  | some n => if 0 < n then n else 80
  | none => 80

end MethodMacros.CommandLine
