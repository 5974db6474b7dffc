import MethodMacros.Pattern.Reading

/-!
# Matching whole lines

A node is matched at a cursor with a continuation that matches what follows it.  Where a node can
match in several ways, it offers them to the continuation one after the other, and the first that
lets the whole line match is the answer.  Captures travel with the cursor, so giving up a way also
gives up what it captured.

## Why this ends

The tree gets smaller at each step, except in a repetition.  A mandatory turn uses up the count, and
a further turn is begun only where the one before it did not begin, so each but the last takes a
character.
-/

namespace MethodMacros.Pattern

/-- A place in a line, and where groups were last opened and closed, most recent first. -/
structure Cursor where
  pos : Nat
  opened : List (Nat × Nat) := []
  closed : List (Nat × Nat) := []
  deriving DecidableEq, Repr

namespace Cursor

/-- Moves to another place. -/
def moveTo (s : Cursor) (pos : Nat) : Cursor := { s with pos := pos }

/-- Opens a group here. -/
def «open» (s : Cursor) (index : Nat) : Cursor :=
  { s with opened := (index, s.pos) :: s.opened }

/-- Closes a group here. -/
def close (s : Cursor) (index : Nat) : Cursor :=
  { s with closed := (index, s.pos) :: s.closed }

/-- Where the text that a group captured starts and ends.  A group that was opened again and is not
closed yet has captured nothing, unless it was opened where it was closed before. -/
def span? (s : Cursor) (index : Nat) : Option (Nat × Nat) :=
  match s.opened.lookup index, s.closed.lookup index with
  | some first, some last => if first ≤ last then some (first, last) else none
  | _, _ => none

end Cursor

/-- What is to be matched after some part of a pattern. -/
abbrev Rest := Cursor → Option Cursor

/-- A part of a pattern, as a function of what is to be matched after it. -/
abbrev Part := Cursor → Rest → Option Cursor

/-! ## Places -/

/-- The character at a place is a word character. -/
def wordAt (ascii : Bool) (text : Array Char) (pos : Nat) : Bool :=
  match text[pos]? with
  | some c => isWord ascii c
  | none => false

/-- A word starts or ends at a place. -/
def wordEdge (ascii : Bool) (text : Array Char) (pos : Nat) : Bool :=
  (0 < pos && wordAt ascii text (pos - 1)) != wordAt ascii text pos

/-- An anchor holds at a place.  In an empty line there is no word boundary, nor the absence of
one. -/
def Anchor.holds (text : Array Char) (pos : Nat) : Anchor → Bool
  | .textStart => pos == 0
  | .lineStart => pos == 0 || text[pos - 1]? == some '\n'
  | .textEnd => pos == text.size
  | .finalLineEnd => pos == text.size || (pos + 1 == text.size && text[pos]? == some '\n')
  | .lineEnd => pos == text.size || text[pos]? == some '\n'
  | .wordBoundary ascii => !text.isEmpty && wordEdge ascii text pos
  | .noWordBoundary ascii => !text.isEmpty && !wordEdge ascii text pos

/-! ## Runs -/

/-- The number of characters from a place on, at most `n`, that a leaf accepts. -/
def runLength (modes : Modes) (shape : Shape) (text : Array Char) (pos : Nat) : Nat → Nat
  | 0 => 0
  | n + 1 =>
      match text[pos]? with
      | some c =>
          if shape.accepts modes c then runLength modes shape text (pos + 1) n + 1 else 0
      | none => 0

/-- Tries the lengths from `least + extra` down to `least`. -/
def longestFirst (attempt : Nat → Option Cursor) (least : Nat) : Nat → Option Cursor
  | 0 => attempt least
  | extra + 1 => (attempt (least + extra + 1)).or (longestFirst attempt least extra)

/-- Tries the lengths from `least` up to `least + extra`. -/
def shortestFirst (attempt : Nat → Option Cursor) (least : Nat) : Nat → Option Cursor
  | 0 => attempt least
  | extra + 1 => (attempt least).or (shortestFirst attempt (least + 1) extra)

/-- The greatest number of turns that fit between a place and the end of the line. -/
def Bounds.limit (bounds : Bounds) (text : Array Char) (pos : Nat) : Nat :=
  match bounds.most with
  | some n => min n (text.size - pos)
  | none => text.size - pos

/-- Matches a run of characters. -/
def matchRun (text : Array Char) (bounds : Bounds) (greed : Greed) (modes : Modes)
    (shape : Shape) : Part := fun s rest =>
  let length := runLength modes shape text s.pos (bounds.limit text s.pos)
  let attempt := fun n => rest (s.moveTo (s.pos + n))
  if length < bounds.least then none
  else
    match greed with
    | .greedy => longestFirst attempt bounds.least (length - bounds.least)
    | .reluctant => shortestFirst attempt bounds.least (length - bounds.least)
    | .possessive => attempt length

/-! ## Other repetitions -/

/-- Matches a part exactly `n` times. -/
def mandatory (part : Part) (rest : Rest) : Nat → Rest
  | 0, s => rest s
  | n + 1, s => part s (mandatory part rest n)

/-- No further turn may begin: there were enough, or the last one began here. -/
def noFurther (left last : Option Nat) (s : Cursor) : Bool :=
  left == some 0 || last == some s.pos

/-- Further turns, as many as possible.  `left` counts the turns that are allowed, `last` is where
the last of them began, and `n` bounds their number. -/
def furtherGreedy (part : Part) (rest : Rest) : Nat → Option Nat → Option Nat → Rest
  | 0, _, _, s => rest s
  | n + 1, left, last, s =>
      if noFurther left last s then rest s
      else
        (part s (furtherGreedy part rest n (left.map (· - 1)) (some s.pos))).or (rest s)

/-- Further turns, as few as possible. -/
def furtherReluctant (part : Part) (rest : Rest) : Nat → Option Nat → Option Nat → Rest
  | 0, _, _, s => rest s
  | n + 1, left, last, s =>
      (rest s).or
        (if noFurther left last s then none
        else part s (furtherReluctant part rest n (left.map (· - 1)) (some s.pos)))

/-- Further turns, each in its first way, until one fails. -/
def furtherPossessive (part : Part) : Nat → Option Nat → Option Nat → Cursor → Cursor
  | 0, _, _, s => s
  | n + 1, left, last, s =>
      if noFurther left last s then s
      else
        match part s some with
        | some t => furtherPossessive part n (left.map (· - 1)) (some s.pos) t
        | none => s

/-- Mandatory turns, each in its first way. -/
def mandatoryPossessive (part : Part) : Nat → Cursor → Option Cursor
  | 0, s => some s
  | n + 1, s =>
      match part s some with
      | some t => mandatoryPossessive part n t
      | none => none

/-- Matches a repetition. -/
def matchMany (text : Array Char) (bounds : Bounds) (greed : Greed) (part : Part) : Part :=
  fun s rest =>
    let left := bounds.most.map (· - bounds.least)
    let turns := text.size + 2
    match greed with
    | .greedy => mandatory part (furtherGreedy part rest turns left none) bounds.least s
    | .reluctant => mandatory part (furtherReluctant part rest turns left none) bounds.least s
    | .possessive =>
        match mandatoryPossessive part bounds.least s with
        | some t => rest (furtherPossessive part turns left none t)
        | none => none

/-! ## Captured text -/

/-- Characters that count as equal where a captured text is matched again. -/
def sameUpToModes (modes : Modes) (a b : Char) : Bool :=
  if modes.ignoreCase then foldCode modes.ascii a.toNat == foldCode modes.ascii b.toNat
  else a == b

/-- The `n` characters from `i` on stand at `j` as well. -/
def repeatsAt (modes : Modes) (text : Array Char) (i j : Nat) : Nat → Bool
  | 0 => true
  | n + 1 =>
      match text[i]?, text[j]? with
      | some a, some b => sameUpToModes modes a b && repeatsAt modes text (i + 1) (j + 1) n
      | _, _ => false

/-- Matches the text that a group captured.  A group that captured nothing does not match. -/
def matchAgain (text : Array Char) (index : Nat) (modes : Modes) : Part := fun s rest =>
  match s.span? index with
  | some (first, last) =>
      if repeatsAt modes text first s.pos (last - first) then
        rest (s.moveTo (s.pos + (last - first)))
      else none
  | none => none

/-! ## Nodes -/

/-- Matches a node of a pattern, and then the rest. -/
def Node.matchAt (text : Array Char) : Node → Part
  | .empty, s, rest => rest s
  | .char modes shape, s, rest =>
      match text[s.pos]? with
      | some c => if shape.accepts modes c then rest (s.moveTo (s.pos + 1)) else none
      | none => none
  | .run bounds greed modes shape, s, rest => matchRun text bounds greed modes shape s rest
  | .anchor place, s, rest => if place.holds text s.pos then rest s else none
  | .seq first second, s, rest => first.matchAt text s fun t => second.matchAt text t rest
  | .alt first second, s, rest => (first.matchAt text s rest).or (second.matchAt text s rest)
  | .many bounds greed body, s, rest =>
      matchMany text bounds greed (fun t after => body.matchAt text t after) s rest
  | .group index body, s, rest => body.matchAt text (s.open index) fun t => rest (t.close index)
  | .again index _ modes, s, rest => matchAgain text index modes s rest
  | .atomic body, s, rest =>
      match body.matchAt text s some with
      | some t => rest t
      | none => none
  | .ahead negated body, s, rest =>
      match body.matchAt text s some, negated with
      | some t, false => rest (t.moveTo s.pos)
      | none, true => rest s
      | _, _ => none
  | .behind negated width body, s, rest =>
      let found :=
        if s.pos < width.least then none
        else body.matchAt text (s.moveTo (s.pos - width.least)) some
      match found, negated with
      | some t, false => rest (t.moveTo s.pos)
      | none, true => rest s
      | _, _ => none
  | .ifGroup index yes no, s, rest =>
      match s.span? index with
      | some _ => yes.matchAt text s rest
      | none => no.matchAt text s rest

/-- A line that matched, and where the match left its captures. -/
structure Match where
  text : Array Char
  cursor : Cursor
  deriving Repr

/-- The text that a group captured, if it took part in the match. -/
def Match.group? (m : Match) (index : Nat) : Option String :=
  (m.cursor.span? index).map fun span =>
    String.ofList (m.text.extract span.1 span.2).toList

end MethodMacros.Pattern

namespace MethodMacros

/-- Matches a whole line. -/
def Pattern.match? (p : Pattern) (s : String) : Option Pattern.Match :=
  let text := s.toList.toArray
  (p.tree.matchAt text ⟨0, [], []⟩ fun t => if t.pos = text.size then some t else none).map
    fun cursor => ⟨text, cursor⟩

end MethodMacros
