import MethodMacros.Proofs.Pattern.Runs

/-!
# Simple patterns over whole lines

The pieces that the patterns of a report are made of: characters that stand for themselves, runs of
blanks, runs of anything but a line feed, and one group.  This file says which characters each of
them takes (`accepts_point`, `accepts_any`, `accepts_blankShape`), how a text that stands for itself
is matched (`literals_eq_some`, `literals_isSome_iff`), when a pattern matches a line
(`match?_isSome_iff`), and what a group has captured in the end (`group?_eq_some`).
-/

namespace MethodMacros.Pattern

open MethodMacros.Text

/-! ## The pieces -/

/-- A character that stands for itself. -/
def Node.literal (c : Char) : Node := .char {} (.point c.toNat)

/-- The class of blanks. -/
def blankShape : Shape := .oneOf false [.kind .blank false]

/-- A run of one shape, as long as possible. -/
def Node.longest (least : Nat) (shape : Shape) : Node := .run ⟨least, none⟩ .greedy {} shape

theorem toNat_beq_toNat (c d : Char) : (d.toNat == c.toNat) = (d == c) := by
  rw [Bool.eq_iff_iff, beq_iff_eq, beq_iff_eq]
  exact Char.toNat_inj

@[simp] theorem accepts_point (c d : Char) : Shape.accepts {} d (.point c.toNat) = (d == c) := by
  rw [Shape.accepts, acceptsPoint, Bool.false_and, if_neg Bool.false_ne_true]
  exact toNat_beq_toNat c d

@[simp] theorem accepts_any (c : Char) : Shape.accepts {} c .any = (c != '\n') := rfl

@[simp] theorem accepts_oneOf (negated : Bool) (items : List ClassItem) (c : Char) :
    Shape.accepts {} c (.oneOf negated items) = (items.any (·.accepts false c) != negated) := rfl

@[simp] theorem accepts_blankShape (c : Char) : blankShape.accepts {} c = isBlank c := by
  simp [blankShape, ClassItem.accepts, Kind.accepts]

/-! ## Texts that stand for themselves -/

namespace Between

variable {text : Array Char} {s : Cursor} {before after : List Char} {rest : Rest} {r : Cursor}

theorem literal_eq_some (h : Between text s before after) {c : Char} :
    (Node.literal c).matchAt text s rest = some r ↔
      ∃ remaining, after = c :: remaining ∧ rest (s.moveTo (s.pos + [c].length)) = some r := by
  rw [Node.literal, h.char_eq_some]
  constructor
  · rintro ⟨d, remaining, hafter, hd, hr⟩
    rw [accepts_point, beq_iff_eq] at hd
    exact ⟨remaining, hd ▸ hafter, hr⟩
  · rintro ⟨remaining, hafter, hr⟩
    exact ⟨c, remaining, hafter, by rw [accepts_point, beq_self_eq_true], hr⟩

theorem literal_isSome_iff (h : Between text s before after) {c : Char} :
    ((Node.literal c).matchAt text s rest).isSome = true ↔
      ∃ remaining, after = c :: remaining ∧
        (rest (s.moveTo (s.pos + [c].length))).isSome = true :=
  isSome_iff_of_eq_some_iff fun _ => h.literal_eq_some

/-- A text that stands for itself takes itself. -/
theorem literals_eq_some {word : List Char} {nodes : List Node} (h : Between text s before after) :
    (Node.ofList (word.map Node.literal ++ nodes)).matchAt text s rest = some r ↔
      ∃ remaining, after = word ++ remaining ∧
        (Node.ofList nodes).matchAt text (s.moveTo (s.pos + word.length)) rest = some r := by
  induction word generalizing s before after with
  | nil => simp [Cursor.moveTo]
  | cons c word ih =>
    have hpos : s.pos + (c :: word).length = s.pos + 1 + word.length := by
      rw [List.length_cons]
      omega
    rw [List.map_cons, List.cons_append, ofList_cons_matchAt, h.literal_eq_some, hpos]
    constructor
    · rintro ⟨remaining, rfl, hr⟩
      obtain ⟨remaining', rfl, hr'⟩ := (ih (h.move [c])).mp hr
      exact ⟨remaining', rfl, hr'⟩
    · rintro ⟨remaining, rfl, hr⟩
      exact ⟨word ++ remaining, rfl, (ih (h.move [c])).mpr ⟨remaining, rfl, hr⟩⟩

theorem literals_isSome_iff {word : List Char} {nodes : List Node}
    (h : Between text s before after) :
    ((Node.ofList (word.map Node.literal ++ nodes)).matchAt text s rest).isSome = true ↔
      ∃ remaining, after = word ++ remaining ∧
        ((Node.ofList nodes).matchAt text (s.moveTo (s.pos + word.length)) rest).isSome = true :=
  isSome_iff_of_eq_some_iff fun _ => h.literals_eq_some

end Between

/-! ## Whole lines -/

/-- What is left to be matched after a whole pattern: the line has to be at its end. -/
def atEnd (text : Array Char) : Rest := fun t => if t.pos = text.size then some t else none

theorem match?_eq_some_iff {p : Pattern} {line : String} {m : Match} :
    p.match? line = some m ↔ ∃ r,
      p.tree.matchAt line.toList.toArray ⟨0, [], []⟩ (atEnd line.toList.toArray) = some r ∧
        m = ⟨line.toList.toArray, r⟩ := by
  rw [Pattern.match?, Option.map_eq_some_iff]
  exact ⟨fun ⟨r, hr, hm⟩ => ⟨r, hr, hm.symm⟩, fun ⟨r, hr, hm⟩ => ⟨r, hr, hm.symm⟩⟩

theorem match?_isSome_iff {p : Pattern} {line : String} :
    (p.match? line).isSome = true ↔
      (p.tree.matchAt line.toList.toArray ⟨0, [], []⟩ (atEnd line.toList.toArray)).isSome =
        true := by
  rw [Pattern.match?, Option.isSome_map]
  rfl

variable {text : Array Char} {s : Cursor} {before after : List Char} {r : Cursor}

/-- The anchor that closes a pattern holds at the end only, if the line has no line feed. -/
theorem Between.final_eq_some (h : Between text s before after) (hline : '\n' ∉ after) :
    (Node.ofList [.anchor .finalLineEnd]).matchAt text s (atEnd text) = some r ↔
      after = [] ∧ r = s := by
  rw [ofList_cons_matchAt, anchor_eq_some, h.finalLineEnd_holds hline, ofList_nil_matchAt, atEnd]
  refine and_congr_right fun hafter => ?_
  rw [if_pos (h.pos_eq_size_iff.mpr hafter), Option.some_inj, eq_comm]

/-- A group that was opened and closed around a piece has captured it. -/
theorem group?_eq_some {piece : List Char} {index : Nat}
    (htext : text.toList = before ++ (piece ++ after))
    (hopened : r.opened = [(index, before.length)])
    (hclosed : r.closed = [(index, before.length + piece.length)]) :
    (Match.mk text r).group? index = some (String.ofList piece) := by
  have hspan : r.span? index = some (before.length, before.length + piece.length) := by
    simp [Cursor.span?, hopened, hclosed]
  have hextract : (text.extract before.length (before.length + piece.length)).toList = piece := by
    rw [Array.toList_extract, htext, List.extract_eq_take_drop, List.drop_left,
      Nat.add_sub_cancel_left, List.take_left]
  rw [Match.group?, hspan, Option.map_some, hextract]

end MethodMacros.Pattern
