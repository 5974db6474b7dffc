import MethodMacros.Pattern.Fault

/-!
# The text of a pattern

A pattern is read token by token.  A backslash and the character after it are one token, and a
backslash at the very end is a fault that is found as soon as it comes next, whatever else the
reader is about to complain of.
-/

namespace MethodMacros.Pattern

/-- A character of a pattern, or one with a backslash before it. -/
inductive Token where
  | plain (c : Char)
  | escaped (c : Char)
  deriving DecidableEq, Repr

/-- A token as it is written. -/
def Token.chars : Token → List Char
  | .plain c => [c]
  | .escaped c => ['\\', c]

/-- A token as it is written. -/
def Token.text (t : Token) : String :=
  String.ofList t.chars

/-- The rest of a pattern: its tokens, the place of the first of them, and whether a lone
backslash follows the last. -/
structure Source where
  tokens : List Token
  pos : Nat
  dangling : Bool
  deriving DecidableEq, Repr

/-- The tokens of a text, and whether it ends in a lone backslash. -/
def tokensOf : List Char → List Token × Bool
  | [] => ([], false)
  | ['\\'] => ([], true)
  | '\\' :: c :: rest =>
      let (tokens, dangling) := tokensOf rest
      (.escaped c :: tokens, dangling)
  | c :: rest =>
      let (tokens, dangling) := tokensOf rest
      (.plain c :: tokens, dangling)

/-- A reader takes tokens from a source, and may fail. -/
abbrev Reader (α : Type) := StateT Source (Except ReadError) α

namespace Source

/-- The whole of a pattern, before it is known not to start with a lone backslash. -/
def ofChars (s : List Char) : Source :=
  let (tokens, dangling) := tokensOf s
  ⟨tokens, 0, dangling⟩

/-- Refuses a source in which a lone backslash comes next. -/
def checked (s : Source) : Except ReadError Source :=
  if s.tokens.isEmpty && s.dangling then .error (.malformed .trailingBackslash (some s.pos))
  else .ok s

end Source

namespace Reader

/-- The next token, which stays in place. -/
def peek : Reader (Option Token) := do
  return (← get).tokens.head?

/-- The place of the next token. -/
def place : Reader Nat := do
  return (← get).pos

/-- Takes the next token, if there is one. -/
def next : Reader (Option Token) := do
  let s ← get
  match s.tokens with
  | [] => return none
  | t :: rest =>
      set (← ({ s with tokens := rest, pos := s.pos + t.chars.length } : Source).checked)
      return some t

/-- Fails, at a place `back` characters before the next token. -/
def fail {α : Type} (fault : Fault) (back : Nat := 0) : Reader α := do
  throw (.malformed fault (some ((← place) - back)))

/-- Takes the next token if it is the given character. -/
def accept (c : Char) : Reader Bool := do
  if (← peek) = some (.plain c) then
    let _ ← next
    return true
  else return false

/-- Takes up to `n` characters that pass a test. -/
def upTo (test : Char → Bool) : Nat → Reader (List Char)
  | 0 => return []
  | n + 1 => do
      match ← peek with
      | some (.plain c) =>
          if test c then
            let _ ← next
            return c :: (← upTo test n)
          else return []
      | _ => return []

/-- Takes all characters that pass a test. -/
def takeWhile (test : Char → Bool) : Reader (List Char) := do
  upTo test (← get).tokens.length

/-- Takes everything up to a terminator, which is taken too; `n` bounds the number of tokens and
`done` holds the characters so far. -/
def untilFrom (terminator : Char) (what : String) : Nat → List Char → Reader (List Char)
  | n, done => do
      match ← next with
      | none =>
          if done.isEmpty then fail (.missing what)
          else fail (.unterminatedName terminator) done.length
      | some t =>
          if t = .plain terminator then
            if done.isEmpty then fail (.missing what) 1 else return done
          else
            match n with
            | 0 => return done
            | n + 1 => untilFrom terminator what n (done ++ t.chars)

/-- Takes a name up to its terminator, which is taken too. -/
def untilTerminator (terminator : Char) (what : String) : Reader (List Char) := do
  untilFrom terminator what (← get).tokens.length []

end Reader

end MethodMacros.Pattern
