import MethodMacros.Text.Numeral
import MethodMacros.Text.Quoted

/-!
# Grammars of command lines

A grammar says which options a command line may hold and what its one positional argument is: a
value, or the name of a command that takes all that follows.  Reading a command line against a
grammar gives the options in their order, the positional argument, and the arguments that fit
nowhere.

## How arguments are told apart

An argument that starts with a hyphen is an option if it is one, or abbreviates exactly one, or
looks like one.  It is positional if it is a lone hyphen or a negative number, or if it holds a
space and matches no option.  After two hyphens all arguments are positional.

## How values are found

An option takes its value from the same argument or, without one there, from the next if that is
positional.  Short options without values can stand together in one argument.
-/

namespace MethodMacros.CommandLine

/-- An option: how it can be written, the word for its value if it takes one, whether it has to be
given, and what it is for. -/
structure OptionSpec where
  names : List String
  value : Option String := none
  required : Bool := false
  help : String
  deriving DecidableEq, Repr

/-- A command that a command line may name, and what it is for. -/
structure CommandSpec where
  name : String
  help : String
  deriving DecidableEq, Repr

/-- The positional argument. -/
inductive Positional where
  | value (name help : String)
  | command (name help : String) (choices : List CommandSpec)
  deriving DecidableEq, Repr

/-- What a command line may look like. -/
structure Grammar where
  program : String
  description : Option String := none
  positional : Positional
  options : List OptionSpec
  deriving DecidableEq, Repr

/-- An option as it was given, with its value. -/
structure Given where
  option : OptionSpec
  value : Option String
  deriving DecidableEq, Repr

/-- What a command line holds. -/
structure Contents where
  given : List Given := []
  positional : List String := []
  extras : List String := []
  deriving DecidableEq, Repr

/-- Why reading ends early: help was asked for, or the command line is refused. -/
inductive Ending where
  | help
  | refused (message : String)
  deriving DecidableEq, Repr

/-! ## Names -/

/-- An option as complaints name it. -/
def OptionSpec.label (o : OptionSpec) : String := "/".intercalate o.names

/-- The positional argument as complaints name it. -/
def Positional.label : Positional → String
  | .value name _ => name
  | .command name _ _ => name

/-- A complaint about an argument. -/
def complaint {α : Type} (label text : String) : Except Ending α :=
  .error (.refused ("argument " ++ label ++ ": " ++ text))

/-- All names of options with their options, in the order of the grammar. -/
def Grammar.names (g : Grammar) : List (String × OptionSpec) :=
  g.options.flatMap fun o => o.names.map (·, o)

/-- The option with a given name. -/
def Grammar.named? (g : Grammar) (name : String) : Option OptionSpec :=
  g.names.lookup name

/-! ## Telling arguments apart -/

/-- A value in the same argument as its option, and whether an equals sign stands before it. -/
structure Attached where
  equals : Bool
  text : List Char
  deriving DecidableEq, Repr

/-- An option that an argument may stand for: its name in full, and the value attached to it. -/
structure Reading where
  option : OptionSpec
  name : String
  attached : Option Attached
  deriving DecidableEq, Repr

/-- What an argument is. -/
inductive Mark where
  | positional
  | separator
  | option (reading : Option Reading)
  deriving DecidableEq, Repr

/-- The parts before and after the first equals sign, if there is one. -/
def splitEquals (s : List Char) : List Char × Option (List Char) :=
  match s.dropWhile (· != '=') with
  | [] => (s, none)
  | _ :: rest => (s.takeWhile (· != '='), some rest)

/-- The options that a long name may abbreviate. -/
def Grammar.longReadings (g : Grammar) (arg : List Char) : List Reading :=
  let (start, value) := splitEquals arg
  (g.names.filter fun (name, _) => start.isPrefixOf name.toList).map fun (name, o) =>
    ⟨o, name, value.map (⟨true, ·⟩)⟩

/-- The options that a short name may abbreviate, or to which it attaches a value. -/
def Grammar.shortReadings (g : Grammar) (arg : List Char) : List Reading :=
  g.names.filterMap fun (name, o) =>
    if name.toList = arg.take 2 then some ⟨o, name, some ⟨false, arg.drop 2⟩⟩
    else if arg.isPrefixOf name.toList then some ⟨o, name, none⟩
    else none

/-- Decimal digits, or decimal digits around a point with at least one after it, after a hyphen. -/
def isNegativeNumber (arg : List Char) : Bool :=
  match arg with
  | '-' :: rest =>
      let number := if rest.getLast? = some '\n' then rest.dropLast else rest
      let whole := number.takeWhile Text.isDecimal
      match number.dropWhile Text.isDecimal with
      | [] => !whole.isEmpty
      | '.' :: fraction => !fraction.isEmpty && fraction.all Text.isDecimal
      | _ => false
  | _ => false

/-- What an argument that starts with a hyphen, and is longer than one, is. -/
def Grammar.markOption (g : Grammar) (arg : List Char) : Except Ending Mark :=
  let text := String.ofList arg
  match g.named? text with
  | some o => .ok (.option (some ⟨o, text, none⟩))
  | none =>
      let exact : Option Reading := do
        let (name, value) := splitEquals arg
        let o ← g.named? (String.ofList name)
        return ⟨o, String.ofList name, some ⟨true, ← value⟩⟩
      match exact with
      | some r => .ok (.option (some r))
      | none =>
          let readings : List Reading :=
            if arg[1]? = some '-' then g.longReadings arg else g.shortReadings arg
          match readings with
          | [r] => .ok (.option (some r))
          | _ :: _ :: _ =>
              .error (.refused ("ambiguous option: " ++ text ++ " could match " ++
                ", ".intercalate (readings.map (·.name))))
          | [] =>
              if isNegativeNumber arg || arg.contains ' ' then .ok .positional
              else .ok (.option none)

/-- What an argument is. -/
def Grammar.mark (g : Grammar) (arg : String) : Except Ending Mark :=
  match arg.toList with
  | '-' :: c :: rest => g.markOption ('-' :: c :: rest)
  | _ => .ok .positional

/-- What each argument is. -/
def Grammar.marks (g : Grammar) : List String → Except Ending (List (String × Mark))
  | [] => .ok []
  | "--" :: rest => .ok (("--", .separator) :: rest.map (·, .positional))
  | arg :: rest => do
      let m ← g.mark arg
      return (arg, m) :: (← g.marks rest)

/-! ## Options -/

/-- An attached value for an option that takes none. -/
def ignoredValue {α : Type} (o : OptionSpec) (value : List Char) : Except Ending α :=
  complaint o.label ("ignored explicit argument " ++ Text.quoted (String.ofList value))

/-- The options in one argument, given how its beginning is read, with the value that the next
argument offers.  `n` bounds the number of options.  Also told are the rest of the argument, if it
is no option, and whether the value was used. -/
def Grammar.optionsIn (g : Grammar) (offer : Option String) :
    Nat → Reading → Except Ending (List Given × List String × Bool)
  | n, r =>
      match r.attached, r.option.value with
      | some a, some _ => .ok ([⟨r.option, some (String.ofList a.text)⟩], [], false)
      | some a, none =>
          match a.text, r.name.toList[1]? with
          | c :: rest, some second =>
              if second = '-' || a.equals || c = '-' then ignoredValue r.option a.text
              else
                let name := String.ofList ['-', c]
                match g.named? name, n with
                | some o, n + 1 => do
                    let attached : Option Attached :=
                      match rest with
                      | [] => none
                      | '=' :: value => some ⟨true, value⟩
                      | _ => some ⟨false, rest⟩
                    let (more, extras, used) ← g.optionsIn offer n ⟨o, name, attached⟩
                    return (⟨r.option, none⟩ :: more, extras, used)
                | _, _ => .ok ([⟨r.option, none⟩], [String.ofList ('-' :: a.text)], false)
          | _, _ => ignoredValue r.option a.text
      | none, none => .ok ([⟨r.option, none⟩], [], false)
      | none, some _ =>
          match offer with
          | some value => .ok ([⟨r.option, some value⟩], [], true)
          | none => complaint r.option.label "expected one argument"

/-- The option that shows help. -/
def helpOption : OptionSpec where
  names := ["-h", "--help"]
  help := "show this help message and exit"

/-- Adds options in their order, up to the one that shows help. -/
def Contents.addGiven (c : Contents) (given : List Given) : Except Ending Contents :=
  if given.any (·.option = helpOption) then .error .help
  else .ok { c with given := c.given ++ given }

/-! ## The positional argument -/

/-- The number of arguments that the positional one takes from here, if it can stand here: a command
takes all, a value takes separators around it too. -/
def Positional.takes (p : Positional) (rest : List (String × Mark)) : Nat :=
  let isSeparator := fun (entry : String × Mark) => entry.2 == .separator
  let before := (rest.takeWhile isSeparator).length
  match rest.drop before with
  | (_, .positional) :: after =>
      match p with
      | .command _ _ _ => rest.length
      | .value _ _ => before + 1 + (after.takeWhile isSeparator).length
  | _ => 0

/-- The values of the positional argument, from the arguments that it takes.  A command has to be
one that the grammar knows. -/
def Positional.values (p : Positional) (args : List String) : Except Ending (List String) :=
  match p with
  | .value _ _ => .ok (args.erase "--")
  | .command name _ choices =>
      let given := args.headD ""
      if choices.any (·.name = given) then .ok args
      else complaint name ("invalid choice: " ++ Text.quoted given ++ " (choose from " ++
        ", ".intercalate (choices.map (Text.quoted ·.name)) ++ ")")

/-- Takes the positional argument, if it can stand here and was not taken before. -/
def Grammar.takePositional (g : Grammar) (c : Contents) (rest : List (String × Mark)) :
    Except Ending (Contents × List (String × Mark)) := do
  let n := if c.positional.isEmpty then g.positional.takes rest else 0
  if n = 0 then return (c, rest)
  let values ← g.positional.values ((rest.take n).map (·.1))
  return ({ c with positional := values }, rest.drop n)

/-! ## Reading -/

/-- An argument is an option. -/
def isOption (entry : String × Mark) : Bool :=
  match entry.2 with
  | .option _ => true
  | _ => false

/-- Takes the option that comes next. -/
def Grammar.takeOption (g : Grammar) (c : Contents) :
    List (String × Mark) → Except Ending (Contents × List (String × Mark))
  | (arg, .option none) :: rest => .ok ({ c with extras := c.extras ++ [arg] }, rest)
  | (arg, .option (some r)) :: rest => do
      let offer : Option String :=
        match rest with
        | (value, .positional) :: _ => some value
        | _ => none
      let (given, extras, used) ← g.optionsIn offer arg.length r
      let c ← { c with extras := c.extras ++ extras }.addGiven given
      return (c, if used then rest.drop 1 else rest)
  | rest => .ok (c, rest)

/-- Reads arguments as long as there are options among them; `n` bounds the number of steps. -/
def Grammar.readFrom (g : Grammar) : Nat → Contents → List (String × Mark) →
    Except Ending Contents
  | n, c, rest => do
      let (c, after) ← if rest.head?.any isOption then pure (c, rest) else g.takePositional c rest
      match n with
      | 0 => return { c with extras := c.extras ++ after.map (·.1) }
      | n + 1 =>
          if !rest.any isOption then
            return { c with extras := c.extras ++ after.map (·.1) }
          else if after.length < rest.length then g.readFrom n c after
          else
            let skipped := rest.takeWhile fun entry => !isOption entry
            let c := { c with extras := c.extras ++ skipped.map (·.1) }
            let (c, after) ← g.takeOption c (rest.drop skipped.length)
            g.readFrom n c after

/-- What a grammar requires. -/
def Grammar.required (g : Grammar) : List String :=
  (match g.positional with
    | .value name _ => [name]
    | .command _ _ _ => []) ++ (g.options.filter (·.required)).map (·.label)

/-- What a grammar requires and a command line lacks. -/
def Grammar.lacking (g : Grammar) (c : Contents) : List String :=
  (match g.positional with
    | .value name _ => if c.positional.isEmpty then [name] else []
    | .command _ _ _ => []) ++
    (g.options.filter fun o => o.required && !c.given.any (·.option = o)).map (·.label)

/-- Reads a command line. -/
def Grammar.read (g : Grammar) (args : List String) : Except Ending Contents := do
  let marks ← g.marks args
  let c ← g.readFrom args.length {} marks
  match g.lacking c with
  | [] => return c
  | labels =>
      throw (.refused ("the following arguments are required: " ++ ", ".intercalate labels))

end MethodMacros.CommandLine
