import MethodMacros.Text.Blank
import MethodMacros.Text.Letter
import MethodMacros.Text.LowerCase
import MethodMacros.Text.Numeral

/-!
# Patterns

A pattern describes whole lines and captures parts of them.  This file holds its tree and says
which single characters each leaf of the tree accepts.

## Modes stay at the leaves

Whether case matters, whether a dot takes a line feed, and which alphabet a class such as "word"
refers to are settled when a pattern is read, and stored where they matter.  A tree therefore has
one meaning wherever it stands, and no mode has to be carried along while matching.

## Two kinds of repetition

A repeated single character is a `run` and any other repetition is `many`.  A run needs no
captures to be kept for each turn: all that varies is its length.
-/

namespace MethodMacros.Pattern

open MethodMacros.Text

/-- The modes that inline flags switch. -/
structure Modes where
  ignoreCase : Bool := false
  multiline : Bool := false
  dotAll : Bool := false
  ascii : Bool := false
  deriving DecidableEq, Repr

/-- The classes of characters that have a name. -/
inductive Kind where
  | digit
  | blank
  | word
  deriving DecidableEq, Repr

/-- One member of a class of characters.  Code points are numbers, because a pattern may name one
that no text can hold. -/
inductive ClassItem where
  | point (code : Nat)
  | range (lo hi : Nat)
  | kind (k : Kind) (negated : Bool)
  deriving DecidableEq, Repr

/-- What a leaf of a pattern says about the one character that it takes. -/
inductive Shape where
  | point (code : Nat)
  | otherThan (code : Nat)
  | any
  | oneOf (negated : Bool) (items : List ClassItem)
  deriving DecidableEq, Repr

/-- Places in a line, which take no character. -/
inductive Anchor where
  | textStart
  | lineStart
  | textEnd
  | finalLineEnd
  | lineEnd
  | wordBoundary (ascii : Bool)
  | noWordBoundary (ascii : Bool)
  deriving DecidableEq, Repr

/-- How a repetition chooses among its possible lengths. -/
inductive Greed where
  | greedy
  | reluctant
  | possessive
  deriving DecidableEq, Repr

/-- How often something is repeated; without `most` there is no upper bound. -/
structure Bounds where
  least : Nat
  most : Option Nat
  deriving DecidableEq, Repr

/-- The least and the greatest number of characters that part of a pattern can take. -/
structure Width where
  least : Nat
  most : Nat
  deriving DecidableEq, Repr

/-- The tree of a pattern. -/
inductive Node where
  | empty
  | char (modes : Modes) (shape : Shape)
  | run (bounds : Bounds) (greed : Greed) (modes : Modes) (shape : Shape)
  | anchor (place : Anchor)
  | seq (first second : Node)
  | alt (first second : Node)
  | many (bounds : Bounds) (greed : Greed) (body : Node)
  | group (index : Nat) (body : Node)
  | again (index : Nat) (width : Width) (modes : Modes)
  | atomic (body : Node)
  | ahead (negated : Bool) (body : Node)
  | behind (negated : Bool) (width : Width) (body : Node)
  | ifGroup (index : Nat) (yes no : Node)
  deriving DecidableEq, Repr

/-! ## Single characters -/

/-- A word character of the ASCII range. -/
def isAsciiWord (c : Char) : Bool :=
  c.isAlphanum || c == '_'

/-- A word character: a letter, a numeral or an underscore. -/
def isWord (ascii : Bool) (c : Char) : Bool :=
  if ascii then isAsciiWord c else isLetter c || isNumeral c || c == '_'

/-- The characters of a named class. -/
def Kind.accepts (ascii : Bool) (c : Char) : Kind → Bool
  | .digit => if ascii then c.isDigit else isDecimal c
  | .blank => if ascii then isAsciiBlank c else isBlank c
  | .word => isWord ascii c

/-- A member of a class accepts a character as it stands. -/
def ClassItem.accepts (ascii : Bool) (c : Char) : ClassItem → Bool
  | .point code => c.toNat == code
  | .range lo hi => lo ≤ c.toNat && c.toNat ≤ hi
  | .kind k negated => k.accepts ascii c != negated

/-- The last code point of the basic multilingual plane. -/
def lastBasic : Nat := 0xFFFF

/-- A member of a class holds a character that has an upper-case and a lower-case form.  The
supplementary planes count as cased throughout. -/
def ClassItem.isCased (ascii : Bool) : ClassItem → Bool
  | .point code =>
      lastBasic < code || (if ascii then isAsciiCased code else Text.isCased code)
  | .range lo hi =>
      lastBasic < hi ||
        (if ascii then (lo ≤ 90 && 65 ≤ hi) || (lo ≤ 122 && 97 ≤ hi) else hasCased lo hi)
  | .kind _ _ => false

/-- The lower-case form that comparison without case uses. -/
def foldCode (ascii : Bool) (n : Nat) : Nat :=
  if ascii then asciiLowerCode n else lowerCode n

/-- The lower-case code points that count as equal to the lower-case code point `n`. -/
def foldClass (ascii : Bool) (n : Nat) : List Nat :=
  if ascii then [n] else n :: lowerVariants n

/-- The code points whose lower-case form is `n`. -/
def foldSources (ascii : Bool) (n : Nat) : List Nat :=
  if ascii then
    if 97 ≤ n ∧ n ≤ 122 then [n, n - 32] else if 65 ≤ n ∧ n ≤ 90 then [] else [n]
  else lowerPreimages n

/-- A member of a class accepts a character that is given in lower case.  In the basic plane the
member stands for all variants of its characters; beyond it, a single code point stands for itself,
and an interval also for the characters whose upper-case form it holds. -/
def ClassItem.acceptsFolded (ascii : Bool) (c : Char) : ClassItem → Bool
  | .point code =>
      if lastBasic < code then c.toNat == code
      else (foldClass ascii (foldCode ascii code)).contains c.toNat
  | .range lo hi =>
      ((foldClass ascii c.toNat).any fun variant =>
        (foldSources ascii variant).any fun code => lo ≤ code && code ≤ min hi lastBasic) ||
      (lastBasic < hi &&
        ((lo ≤ c.toNat && c.toNat ≤ hi) ||
          (lo ≤ upperHead c.toNat && upperHead c.toNat ≤ hi)))
  | .kind k negated => k.accepts ascii c != negated

/-- A single code point of a pattern accepts a character. -/
def acceptsPoint (modes : Modes) (code : Nat) (c : Char) : Bool :=
  if modes.ignoreCase && (if modes.ascii then isAsciiCased code else Text.isCased code) then
    (foldClass modes.ascii (foldCode modes.ascii code)).contains (foldCode modes.ascii c.toNat)
  else c.toNat == code

/-- A class accepts a character if one of its members does.  Case is ignored in the class as a
whole as soon as one member has it. -/
def acceptsClass (modes : Modes) (items : List ClassItem) (c : Char) : Bool :=
  if modes.ignoreCase && items.any (ClassItem.isCased modes.ascii) then
    items.any (ClassItem.acceptsFolded modes.ascii (Char.ofNat (foldCode modes.ascii c.toNat)))
  else items.any (ClassItem.accepts modes.ascii c)

/-- A leaf of a pattern accepts a character. -/
def Shape.accepts (modes : Modes) (c : Char) : Shape → Bool
  | .point code => acceptsPoint modes code c
  | .otherThan code => !acceptsPoint modes code c
  | .any => modes.dotAll || c != '\n'
  | .oneOf negated items => acceptsClass modes items c != negated

/-! ## Widths -/

/-- Widths are counted up to this bound, which stands for all greater ones. -/
def Width.bound : Nat := 0x10000000000000000

/-- Adds widths below the bound. -/
def addWidths (a b : Nat) : Nat := min (a + b) Width.bound

/-- The width of one part followed by another. -/
def Width.add (a b : Width) : Width :=
  ⟨addWidths a.least b.least, addWidths a.most b.most⟩

/-- The width of a choice. -/
def Width.union (a b : Width) : Width :=
  ⟨min a.least b.least, max a.most b.most⟩

/-- The width of a repetition. -/
def Width.times (bounds : Bounds) (a : Width) : Width where
  least := min (a.least * bounds.least) Width.bound
  most :=
    match bounds.most with
    | some n => min (a.most * n) Width.bound
    | none => if a.most = 0 then 0 else Width.bound

/-- The number of characters that part of a pattern can take. -/
def Node.width : Node → Width
  | .empty | .anchor _ | .ahead _ _ | .behind _ _ _ => ⟨0, 0⟩
  | .char _ _ => ⟨1, 1⟩
  | .run bounds _ _ _ => Width.times bounds ⟨1, 1⟩
  | .seq a b => a.width.add b.width
  | .alt a b => a.width.union b.width
  | .many bounds _ body => body.width.times bounds
  | .group _ body => body.width
  | .again _ width _ => width
  | .atomic body => body.width
  | .ifGroup _ yes no => yes.width.union no.width

/-- Parts that follow each other. -/
def Node.ofList : List Node → Node
  | [] => .empty
  | [node] => node
  | node :: rest => .seq node (Node.ofList rest)

/-- A repeated part. -/
def Node.repeated (bounds : Bounds) (greed : Greed) : Node → Node
  | .char modes shape => .run bounds greed modes shape
  | node => .many bounds greed node

end MethodMacros.Pattern

namespace MethodMacros

/-- A pattern that was read: its tree and the number of its groups. -/
structure Pattern where
  groups : Nat
  tree : Pattern.Node
  deriving DecidableEq, Repr

end MethodMacros
