import MethodMacros.FileSystem.Operations
import MethodMacros.Log

/-!
# Programs

What the commands of this library do to the computer they run on is written as a program: a tree of
requests, each with what happens after its answer.  A program does nothing by itself.  It can be run
on a host that is a value, and then all states in between can be looked at, or carried out for real.

## What a request is

A request is one step that others could see from outside: an operation on one file, the start of a
tool, a message.  Where an operation takes several such steps, like replacing a file, the steps
stand in the program and not in the request.
-/

namespace MethodMacros

/-- Why an operation on a file failed: the operating system refused it, naming a path and possibly a
second one, or the path holds a character that the operating system cannot take. -/
inductive FileError where
  | refused (e : Errno) (path : String) (target : Option String := none)
  | nullByte
  deriving DecidableEq, Repr

/-- A text that can be part of a path. -/
def acceptable (text : String) : Bool := !text.toList.contains '\x00'

/-- The wording of a refusal; `shown` is what it refers to. -/
def Errno.message (e : Errno) (shown : String) : String :=
  "[Errno " ++ toString e.code ++ "] " ++ e.text ++ ": " ++ shown

/-- Why a tool could not be started. -/
inductive StartError where
  | refused (e : Errno)
  | badFolder (e : Errno)
  | nullByte
  | emptyCommand
  deriving DecidableEq, Repr

/-- What a tool left when it ended: its exit code, which is negative for the signal that killed it,
and all that it printed. -/
structure Finished where
  exitCode : Int
  output : List UInt8
  deriving DecidableEq, Repr

/-- What a program says to its user. -/
inductive Message where
  | log (entry : LogEntry)
  | status (text : String)
  | print (text : String)
  deriving DecidableEq, Repr

/-- One step that a program asks for. -/
inductive Request where
  | status (path : String)
  | makeDirectory (path : String)
  | createTemporary (directory stem : String)
  | writeFile (path content : String)
  | readFile (path : String)
  | setMode (path : String) (mode : Nat)
  | rename (source target : String)
  | removeFile (path : String)
  | touch (path : String)
  | exchangeUmask (mask : Mask)
  | isRunnable (path : String)
  | resolve (path : String)
  | time
  | variable (name : String)
  | standardInput
  | start (command : List String) (folder : Option String)
  | tell (message : Message)
  deriving Repr

/-- What a request is answered with. -/
abbrev Request.Answer : Request → Type
  | .status _ => Except FileError Status
  | .makeDirectory _ => Except FileError Unit
  | .createTemporary _ _ => Except FileError String
  | .writeFile _ _ => Except FileError Unit
  | .readFile _ => Except FileError (List UInt8)
  | .setMode _ _ => Except FileError Unit
  | .rename _ _ => Except FileError Unit
  | .removeFile _ => Except FileError Unit
  | .touch _ => Except FileError Unit
  | .exchangeUmask _ => Mask
  | .isRunnable _ => Bool
  | .resolve _ => Except FileError String
  | .time => Int
  | .variable _ => Option String
  | .standardInput => String
  | .start _ _ => Except StartError Finished
  | .tell _ => Unit

/-- A program that ends with a value of type `α`. -/
inductive Program (α : Type) where
  | done (a : α)
  | ask (r : Request) (next : r.Answer → Program α)

namespace Program

variable {α β γ : Type}

/-- A program followed by another one. -/
def bind : Program α → (α → Program β) → Program β
  | .done a, f => f a
  | .ask r next, f => .ask r fun x => (next x).bind f

instance : Monad Program where
  pure := .done
  bind := bind

@[simp] theorem done_bind (a : α) (f : α → Program β) : (Program.done a).bind f = f a := rfl

@[simp] theorem ask_bind (r : Request) (next : r.Answer → Program α) (f : α → Program β) :
    (Program.ask r next).bind f = .ask r fun x => (next x).bind f := rfl

/-- One request, as a program that ends with its answer. -/
def request (r : Request) : Program r.Answer := .ask r .done

end Program

/-- A program that may fail. -/
abbrev Action (ε α : Type) := ExceptT ε Program α

namespace Action

variable {ε ε' α : Type}

/-- One request, whose answer is a value. -/
def request (r : Request) : Action ε r.Answer :=
  ExceptT.lift (Program.request r)

/-- Says something. -/
def tell (m : Message) : Action ε Unit :=
  request (.tell m)

/-- Adds an entry to the log. -/
def log (level : Level) (text : String) : Action ε Unit :=
  tell (.log ⟨level, text⟩)

/-- A program whose failures are seen as failures of another kind. -/
def mapError (f : ε → ε') (a : Action ε α) : Action ε' α :=
  ExceptT.adapt f a

/-- The outcome of a program that may fail, as a value. -/
def outcome (a : Action ε α) : Action ε' (Except ε α) :=
  ExceptT.lift a.run

end Action

end MethodMacros
