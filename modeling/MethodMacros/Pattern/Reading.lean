import MethodMacros.Pattern.CharClass
import MethodMacros.Pattern.Choice
import MethodMacros.Pattern.Flags
import MethodMacros.Text.Identifier
import MethodMacros.Text.Integer

/-!
# Reading a pattern

The reader goes through the tokens once, with the groups that are still open as a stack of frames.
A frame holds the alternatives of its group that are finished and the parts of the current one.

## What is kept besides the tree

A group that only encloses is kept as a bundle until its surroundings are finished: a bundle can be
repeated where the parts in it could not, and it dissolves into them afterwards.

References to groups need to know which groups are closed and how wide they are.  A reference by
number in a condition may also point forward, so those are checked at the end.

## Order of complaints

Faults are found in the order of the text, except for the last four: alphabets that contradict each
other, a parenthesis too many, a condition on a group that is never opened, and then, in the
finished tree, repetition in a template and look-behind of varying width.
-/

namespace MethodMacros.Pattern

open MethodMacros.Text

/-- A part of the current alternative: a tree, or the parts of a group that only encloses. -/
inductive Piece where
  | node (n : Node)
  | bundle (nodes : List Node)
  deriving Repr

/-- The parts that a piece dissolves into. -/
def Piece.nodes : Piece → List Node
  | .node n => [n]
  | .bundle nodes => nodes

/-- What an open group will be when it closes. -/
inductive Enclosure where
  | whole
  | plain
  | moded
  | capture (index : Nat)
  | atomic
  | ahead (negated : Bool)
  | behind (negated outermost : Bool)
  | condition (index : Nat)
  deriving DecidableEq, Repr

/-- An open group: where it starts, its modes, its finished alternatives in reverse, and the
pieces of its current alternative in reverse. -/
structure Frame where
  enclosure : Enclosure
  start : Nat
  modes : Modes
  verbose : Bool
  finished : List (List Node) := []
  pieces : List Piece := []
  deriving Repr

/-- The current alternative. -/
def Frame.current (f : Frame) : List Node :=
  f.pieces.reverse.flatMap Piece.nodes

/-- All alternatives. -/
def Frame.alternatives (f : Frame) : List (List Node) :=
  f.finished.reverse ++ [f.current]

/-- A group: its name, and its width once it is closed. -/
structure GroupEntry where
  name : Option (List Char)
  width : Option Width
  deriving Repr

/-- What is known at some point of reading.  `visible` is set inside a look-behind: only groups
below it may be referred to. -/
structure Draft where
  frame : Frame
  outer : List Frame := []
  groups : List GroupEntry := []
  visible : Option Nat := none
  conditions : List (Nat × Nat) := []
  asciiFlag : Bool := false
  unicodeFlag : Bool := false
  templateFlag : Bool := false
  deriving Repr

/-- The state of reading over the tokens that are left. -/
abbrev Reading (α : Type) := StateT Draft Reader α

/-! ## Groups and references -/

/-- The width of a group that is closed. -/
def Draft.closedWidth? (d : Draft) (index : Nat) : Option Width :=
  if index = 0 then none else (d.groups[index - 1]?).bind GroupEntry.width

/-- The number of the group with a given name. -/
def Draft.named? (d : Draft) (name : List Char) : Option Nat :=
  (d.groups.findIdx? (·.name = some name)).map (· + 1)

/-- Opens a group, and refuses a name that is taken. -/
def openGroup (name : Option (List Char)) : Reading Nat := do
  let d ← get
  let index := d.groups.length + 1
  if let some text := name then
    if let some previous := d.named? text then
      Reader.fail (.groupNameTaken (String.ofList text) index previous) (text.length + 1)
  set { d with groups := d.groups ++ [GroupEntry.mk name none] }
  return index

/-- Refuses references from a look-behind to groups that are open or inside it. -/
def checkVisible (index : Nat) : Reading Unit := do
  let d ← get
  if let some limit := d.visible then
    if (d.closedWidth? index).isNone then Reader.fail .openGroup
    if limit ≤ index then Reader.fail .groupOfSameLookbehind

/-- Adds a piece to the current alternative. -/
def push (p : Piece) : Reading Unit :=
  modify fun d => { d with frame := { d.frame with pieces := p :: d.frame.pieces } }

/-- Adds a reference to a closed group.  `back` is the length of the reference, for faults. -/
def pushReference (index back : Nat) : Reading Unit := do
  let d ← get
  match d.closedWidth? index with
  | none => Reader.fail .openGroup back
  | some width =>
      checkVisible index
      push (.node (.again index width d.frame.modes))

/-- Adds a reference by number, which has been read as `digits`. -/
def pushNumbered (digits : List Char) : Reading Unit := do
  let index := numberOf 10 digits
  if index ≤ (← get).groups.length then pushReference index (digits.length + 1)
  else Reader.fail (.noSuchGroup index) digits.length

/-- Reads the name of a group up to its terminator. -/
def groupName (terminator : Char) : Reader (List Char) := do
  let name ← Reader.untilTerminator terminator "group name"
  if isIdentifier name then return name
  else Reader.fail (.badGroupName (String.ofList name)) (name.length + 1)

/-- A group number in a condition: an integer that is not negative. -/
def groupNumber? (text : List Char) : Option Nat :=
  match integer? text with
  | some (.ofNat n) => some n
  | _ => none

/-- The greatest number that a group may have. -/
def groupLimit : Nat := 0x3FFFFFFF

/-- Reads the group that a condition asks for. -/
def conditionGroup : Reading Nat := do
  let name ← Reader.untilTerminator ')' "group name"
  let back := name.length + 1
  let d ← get
  let index ←
    if isIdentifier name then
      match d.named? name with
      | some index => pure index
      | none => Reader.fail (.noSuchGroupName (String.ofList name)) back
    else
      match groupNumber? name with
      | none => Reader.fail (.badGroupName (String.ofList name)) back
      | some 0 => Reader.fail .badGroupNumber back
      | some n =>
          if groupLimit ≤ n then Reader.fail (.noSuchGroup n) back
          let place := (← Reader.place) - back
          set { d with conditions := d.conditions ++ [(n, place)] }
          pure n
  checkVisible index
  return index

/-! ## Opening and closing -/

/-- Puts a new frame on top. -/
def enter (enclosure : Enclosure) (start : Nat) (modes : Modes) (verbose : Bool) :
    Reading Unit :=
  modify fun d =>
    { d with frame := ⟨enclosure, start, modes, verbose, [], []⟩, outer := d.frame :: d.outer }

/-- Puts a new frame on top, with the modes of the one below. -/
def enterAs (enclosure : Enclosure) (start : Nat) : Reading Unit := do
  let d ← get
  enter enclosure start d.frame.modes d.frame.verbose

/-- The piece that a closed group leaves behind. -/
def Frame.close (f : Frame) : Piece :=
  let nodes := joinAlternatives f.alternatives
  let body := Node.ofList nodes
  match f.enclosure with
  | .whole | .plain => .bundle nodes
  | .moded => .node (.seq body .empty)
  | .capture index => .node (.group index body)
  | .atomic => .node (.atomic body)
  | .ahead negated => .node (.ahead negated body)
  | .behind negated _ => .node (.behind negated body.width body)
  | .condition index =>
      match f.alternatives with
      | [yes, no] => .node (.ifGroup index (.ofList yes) (.ofList no))
      | _ => .node (.ifGroup index (.ofList f.current) .empty)

/-- Takes the top frame down and adds its piece to the frame below. -/
def leave (below : Frame) (rest : List Frame) : Reading Unit := do
  let d ← get
  let closed := d.frame.close
  set { d with
    frame := { below with pieces := closed :: below.pieces }
    outer := rest
    groups :=
      match d.frame.enclosure with
      | .capture index =>
          d.groups.modify (index - 1) fun entry =>
            { entry with width := some (Node.ofList closed.nodes).width }
      | _ => d.groups
    visible :=
      match d.frame.enclosure with
      | .behind _ true => none
      | _ => d.visible }

/-- Starts the next alternative, before the bar is taken. -/
def nextAlternative : Reading Unit := do
  let d ← get
  match d.frame.enclosure, d.frame.finished with
  | .condition _, _ :: _ => Reader.fail .tooManyBranches
  | _, _ =>
      set { d with
        frame := { d.frame with finished := d.frame.current :: d.frame.finished, pieces := [] } }
  let _ ← Reader.next

/-- Opens a look-around. -/
def enterLook (behind negated : Bool) (start : Nat) : Reading Unit := do
  if behind then
    let d ← get
    set { d with visible := some (d.visible.getD (d.groups.length + 1)) }
    enterAs (.behind negated d.visible.isNone) start
  else enterAs (.ahead negated) start

/-- Skips a comment, up to its closing parenthesis. -/
def skipComment (start : Nat) : Nat → Reader Unit
  | 0 => return ()
  | n + 1 => do
      match ← Reader.next with
      | none => Reader.fail .unterminatedComment ((← Reader.place) - start)
      | some t => if t = .plain ')' then return () else skipComment start n

/-- Switches modes on for the whole pattern, which is possible at its very beginning only. -/
def setGlobalFlags (f : Flags) (start : Nat) : Reading Unit := do
  let d ← get
  if d.frame.enclosure = .whole ∧ d.frame.finished.isEmpty ∧ d.frame.pieces.isEmpty then
    set { d with
      frame := { d.frame with
        modes := { f.apply d.frame.modes with
          ascii := d.frame.modes.ascii || f.on.contains 'a' }
        verbose := f.applyVerbose d.frame.verbose }
      asciiFlag := d.asciiFlag || f.on.contains 'a'
      unicodeFlag := d.unicodeFlag || f.on.contains 'u'
      templateFlag := d.templateFlag || f.on.contains 't' }
  else Reader.fail .lateGlobalFlags ((← Reader.place) - start)

/-- Opens a group with flags, or sets flags for the whole pattern. -/
def enterFlags (c : Char) (start : Nat) : Reading Unit := do
  let f ← flags c
  if f.whole then setGlobalFlags f start
  else
    let d ← get
    enter .moded start (f.apply d.frame.modes) (f.applyVerbose d.frame.verbose)

/-- Opens a group that captures. -/
def enterCapture (name : Option (List Char)) (start : Nat) : Reading Unit := do
  enterAs (.capture (← openGroup name)) start

/-- Opens a group with a name, or refers to one. -/
def enterNamed (start : Nat) : Reading Unit := do
  if ← Reader.accept '<' then enterCapture (some (← groupName '>')) start
  else if ← Reader.accept '=' then
    let name ← groupName ')'
    match (← get).named? name with
    | none => Reader.fail (.noSuchGroupName (String.ofList name)) (name.length + 1)
    | some index => pushReference index (name.length + 1)
  else
    match ← Reader.next with
    | none => Reader.fail .unexpectedEnd
    | some t => Reader.fail (.unknownExtension ("?P" ++ t.text)) (t.chars.length + 2)

/-- Opens a look-behind, after its less-than sign. -/
def enterBehind (start : Nat) : Reading Unit := do
  match ← Reader.next with
  | none => Reader.fail .unexpectedEnd
  | some (.plain '=') => enterLook true false start
  | some (.plain '!') => enterLook true true start
  | some t => Reader.fail (.unknownExtension ("?<" ++ t.text)) (t.chars.length + 2)

/-- Opens whatever follows a parenthesis and a question mark. -/
def enterExtension (start : Nat) : Reading Unit := do
  match ← Reader.next with
  | none => Reader.fail .unexpectedEnd
  | some t =>
      match t with
      | .plain 'P' => enterNamed start
      | .plain ':' => enterAs .plain start
      | .plain '#' => skipComment start ((← getThe Source).tokens.length + 1)
      | .plain '=' => enterLook false false start
      | .plain '!' => enterLook false true start
      | .plain '<' => enterBehind start
      | .plain '(' => enterAs (.condition (← conditionGroup)) start
      | .plain '>' => enterAs .atomic start
      | _ =>
          if t = .plain '-' then enterFlags '-' start
          else
            match t.flag? with
            | some c => enterFlags c start
            | none => Reader.fail (.unknownExtension ("?" ++ t.text)) (t.chars.length + 1)

/-! ## Repetition -/

/-- Numbers of repetitions from this one on are too large. -/
def repeatLimit : Nat := 0xFFFFFFFF

/-- A number of repetitions that has to be below the limit. -/
def repeatCount (digits : List Char) : Reader Nat := do
  let n := numberOf 10 digits
  if n < repeatLimit then return n else throw .tooManyRepetitions

/-- Reads bounds between braces, after the opening brace.  Braces that hold no bounds stand for
themselves. -/
def bracedBounds : Reader (Option Bounds) := do
  let here ← get
  if here.tokens.head? = some (.plain '\x7d') then return none
  let low ← Reader.takeWhile Char.isDigit
  let high ← if ← Reader.accept ',' then Reader.takeWhile Char.isDigit else pure low
  if ← Reader.accept '\x7d' then
    let least ← if low.isEmpty then pure 0 else repeatCount low
    if high.isEmpty then return some ⟨least, none⟩
    let most ← repeatCount high
    if most < least then Reader.fail .leastAboveMost ((← Reader.place) - here.pos)
    return some ⟨least, some most⟩
  else
    set here
    return none

/-- Reads the mark that says how a repetition chooses its length. -/
def greed : Reader Greed := do
  if ← Reader.accept '?' then return .reluctant
  if ← Reader.accept '+' then return .possessive
  return .greedy

/-- Repeats the last piece.  `start` is where the quantifier starts. -/
def repeatLast (bounds : Bounds) (start : Nat) : Reading Unit := do
  let d ← get
  let back := (← Reader.place) - start
  match d.frame.pieces with
  | [] | .node (.anchor _) :: _ => Reader.fail .nothingToRepeat back
  | .node (.run _ _ _ _) :: _ | .node (.many _ _ _) :: _ => Reader.fail .repeatedRepeat back
  | piece :: pieces =>
      let repeated := Node.repeated bounds (← greed) (Node.ofList piece.nodes)
      set { d with frame := { d.frame with pieces := .node repeated :: pieces } }

/-! ## The reader -/

/-- A blank that is skipped in a verbose pattern. -/
def isSkipped (c : Char) : Bool := isAsciiBlank c

/-- Skips a comment of a verbose pattern, up to the end of its line. -/
def skipLine : Nat → Reader Unit
  | 0 => return ()
  | n + 1 => do
      match ← Reader.next with
      | none | some (.plain '\n') => return ()
      | some _ => skipLine n

/-- Adds an escape to the current alternative. -/
def pushEscape (modes : Modes) : Escape → Reading Unit
  | .point code => push (.node (.char modes (.point code)))
  | .kind k negated => push (.node (.char modes (.oneOf false [.kind k negated])))
  | .place a => push (.node (.anchor a))
  | .reference digits => pushNumbered digits

/-- Reads what starts with a plain character that has just been taken. -/
def readPlain (modes : Modes) (c : Char) : Reading Unit := do
  let start := (← Reader.place) - 1
  match c with
  | '[' => push (.node (.char modes (← charClass)))
  | '?' => repeatLast ⟨0, some 1⟩ start
  | '*' => repeatLast ⟨0, none⟩ start
  | '+' => repeatLast ⟨1, none⟩ start
  | '\x7b' =>
      match ← bracedBounds with
      | some bounds => repeatLast bounds start
      | none => push (.node (.char modes (.point c.toNat)))
  | '.' => push (.node (.char modes .any))
  | '(' =>
      if ← Reader.accept '?' then enterExtension start else enterCapture none start
  | '^' => push (.node (.anchor (if modes.multiline then .lineStart else .textStart)))
  | '$' => push (.node (.anchor (if modes.multiline then .lineEnd else .finalLineEnd)))
  | _ => push (.node (.char modes (.point c.toNat)))

/-- Reads what starts with a token that has just been taken. -/
def readToken (t : Token) : Reading Unit := do
  let frame := (← get).frame
  match t with
  | .escaped c => pushEscape frame.modes (← escape frame.modes c)
  | .plain c =>
      if frame.verbose && isSkipped c then return ()
      else if frame.verbose && c = '#' then skipLine ((← getThe Source).tokens.length + 1)
      else readPlain frame.modes c

/-- Reads tokens until none is left or a parenthesis has nothing to close; `n` bounds their
number. -/
def readTokens : Nat → Reading Unit
  | 0 => return ()
  | n + 1 => do
      match ← Reader.peek with
      | none => return ()
      | some (.plain ')') =>
          match (← get).outer with
          | [] => return ()
          | below :: rest =>
              let _ ← Reader.next
              leave below rest
              readTokens n
      | some (.plain '|') =>
          nextAlternative
          readTokens n
      | some t =>
          let _ ← Reader.next
          readToken t
          readTokens n

/-- The name of a repetition in the complaint about a template. -/
def Greed.operator : Greed → String
  | .greedy => "MAX_REPEAT"
  | .reluctant => "MIN_REPEAT"
  | .possessive => "POSSESSIVE_REPEAT"

/-- The longest look-behind. -/
def lookbehindLimit : Nat := 0xFFFFFFFF

/-- The first fault in a finished tree. -/
def Node.fault? (template : Bool) : Node → Option Fault
  | .empty | .char _ _ | .anchor _ | .again _ _ _ => none
  | .run _ greed _ _ => if template then some (.templateRepeat greed.operator) else none
  | .seq a b => (a.fault? template).or (b.fault? template)
  | .alt a b => (a.fault? template).or (b.fault? template)
  | .many _ greed body =>
      if template then some (.templateRepeat greed.operator) else body.fault? template
  | .group _ body => body.fault? template
  | .atomic body => body.fault? template
  | .ahead _ body => body.fault? template
  | .behind _ width body =>
      if lookbehindLimit < width.least then some .lookbehindTooLong
      else if width.least ≠ width.most then some .lookbehindOfVaryingWidth
      else body.fault? template
  | .ifGroup _ yes no => (yes.fault? template).or (no.fault? template)

/-- Checks what can be checked only at the end. -/
def finish : Reading Pattern := do
  let d ← get
  unless d.outer.isEmpty do
    Reader.fail .unterminatedGroup ((← Reader.place) - d.frame.start)
  if d.asciiFlag && d.unicodeFlag then throw .twoAlphabets
  if (← Reader.peek).isSome then Reader.fail .unbalancedParenthesis
  if let some (index, place) := d.conditions.find? fun c => d.groups.length < c.1 then
    throw (.malformed (.noSuchGroup index) (some place))
  let tree := Node.ofList (joinAlternatives d.frame.alternatives)
  match tree.fault? d.templateFlag with
  | some fault => throw (.malformed fault none)
  | none => return ⟨d.groups.length, tree⟩

/-- The state before the first token. -/
def Draft.initial : Draft where
  frame := ⟨.whole, 0, {}, false, [], []⟩

/-- Reads the pattern that a source holds. -/
def readSource (s : Source) : Except ReadError Pattern := do
  let reading : Reading Pattern := do
    readTokens (s.tokens.length + 1)
    finish
  let ((pattern, _), _) ← (reading.run .initial).run (← s.checked)
  return pattern

end MethodMacros.Pattern

namespace MethodMacros

/-- Reads a pattern. -/
def Pattern.read (s : String) : Except Pattern.ReadError Pattern :=
  Pattern.readSource (Pattern.Source.ofChars s.toList)

end MethodMacros
