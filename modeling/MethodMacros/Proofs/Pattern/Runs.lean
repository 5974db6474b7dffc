import MethodMacros.Pattern.Matching

/-!
# Matching by pieces of the line

A cursor is a number, and what a pattern takes is a stretch between two numbers.  Proofs are easier
with the characters themselves: `Between text s before after` says that the cursor `s` has `before`
behind it and `after` ahead, and each kind of node then takes a piece off the front of `after`.

A greedy run is described twice.  Whether it lets the line match depends on no order of attempts
(`Between.run_isSome_iff`); how much it takes does, and then no longer piece would have let the rest
match (`Between.run_eq_some`).
-/

namespace MethodMacros.Pattern

/-! ## Parts in a row -/

theorem ofList_cons_matchAt (text : Array Char) (node : Node) (nodes : List Node) (s : Cursor)
    (rest : Rest) :
    (Node.ofList (node :: nodes)).matchAt text s rest =
      node.matchAt text s fun t => (Node.ofList nodes).matchAt text t rest := by
  cases nodes <;> rfl

theorem ofList_nil_matchAt (text : Array Char) (s : Cursor) (rest : Rest) :
    (Node.ofList []).matchAt text s rest = rest s := rfl

/-! ## The longest attempt first -/

theorem longestFirst_eq_some {attempt : Nat → Option Cursor} {least extra : Nat} {r : Cursor}
    (h : longestFirst attempt least extra = some r) :
    ∃ n, least ≤ n ∧ n ≤ least + extra ∧ attempt n = some r ∧
      ∀ m, n < m → m ≤ least + extra → attempt m = none := by
  induction extra with
  | zero => exact ⟨least, Nat.le_refl _, Nat.le_refl _, h, fun m hm hle => by omega⟩
  | succ extra ih =>
    rw [longestFirst] at h
    cases hlast : attempt (least + extra + 1) with
    | some t =>
      rw [hlast, Option.some_or] at h
      exact ⟨least + extra + 1, by omega, Nat.le_refl _, h ▸ hlast, fun m hm hle => by omega⟩
    | none =>
      rw [hlast, Option.none_or] at h
      obtain ⟨n, hn, hle, hattempt, hlonger⟩ := ih h
      refine ⟨n, hn, by omega, hattempt, fun m hm hmle => ?_⟩
      rcases Nat.lt_or_eq_of_le hmle with hlt | rfl
      · exact hlonger m hm (by omega)
      · exact hlast

theorem longestFirst_isSome_iff {attempt : Nat → Option Cursor} {least extra : Nat} :
    (longestFirst attempt least extra).isSome = true ↔
      ∃ n, least ≤ n ∧ n ≤ least + extra ∧ (attempt n).isSome = true := by
  constructor
  · intro h
    obtain ⟨r, hr⟩ := Option.isSome_iff_exists.mp h
    obtain ⟨n, hn, hle, hattempt, -⟩ := longestFirst_eq_some hr
    exact ⟨n, hn, hle, by rw [hattempt]; rfl⟩
  · rintro ⟨n, hn, hle, hattempt⟩
    induction extra with
    | zero =>
      obtain rfl : n = least := by omega
      exact hattempt
    | succ extra ih =>
      rw [longestFirst, Option.isSome_or]
      rcases Nat.lt_or_eq_of_le hle with hlt | rfl
      · rw [ih (by omega), Bool.or_true]
      · rw [show least + (extra + 1) = least + extra + 1 by omega] at hattempt
        rw [hattempt, Bool.true_or]

/-- A part lets the line match if one of its ways does. -/
theorem isSome_iff_of_eq_some_iff {α : Type} {result : Option Cursor} {way : α → Prop}
    {next : α → Option Cursor} (h : ∀ r, result = some r ↔ ∃ a, way a ∧ next a = some r) :
    result.isSome = true ↔ ∃ a, way a ∧ (next a).isSome = true := by
  simp only [Option.isSome_iff_exists, h]
  constructor
  · rintro ⟨r, a, ha, hr⟩
    exact ⟨a, ha, r, hr⟩
  · rintro ⟨a, ha, r, hr⟩
    exact ⟨r, a, ha, hr⟩

/-! ## A cursor between two pieces -/

/-- The cursor stands after `before` and in front of `after`. -/
structure Between (text : Array Char) (s : Cursor) (before after : List Char) : Prop where
  text_eq : text.toList = before ++ after
  pos_eq : s.pos = before.length

namespace Between

variable {text : Array Char} {s : Cursor} {before after : List Char}

/-- The cursor that matching starts with, in front of a line in any of its forms. -/
theorem start {line : List Char} (h : line = after) : Between line.toArray ⟨0, [], []⟩ [] after :=
  ⟨h, rfl⟩

theorem getElem? (h : Between text s before after) : text[s.pos]? = after.head? := by
  rw [← Array.getElem?_toList, h.text_eq, h.pos_eq, List.getElem?_append_right (Nat.le_refl _),
    Nat.sub_self, List.head?_eq_getElem?]

theorem size_eq (h : Between text s before after) : text.size = s.pos + after.length := by
  rw [← Array.length_toList, h.text_eq, h.pos_eq, List.length_append]

/-- The cursor has come to the end. -/
theorem pos_eq_size_iff (h : Between text s before after) : s.pos = text.size ↔ after = [] := by
  rw [h.size_eq, ← List.length_eq_zero_iff]
  omega

/-- The cursor moves over a piece. -/
theorem move (piece : List Char) (h : Between text s before (piece ++ after)) :
    Between text (s.moveTo (s.pos + piece.length)) (before ++ piece) after where
  text_eq := by rw [h.text_eq, List.append_assoc]
  pos_eq := by simp [Cursor.moveTo, h.pos_eq]

theorem «open» (h : Between text s before after) (index : Nat) :
    Between text (s.open index) before after := ⟨h.text_eq, h.pos_eq⟩

theorem close (h : Between text s before after) (index : Nat) :
    Between text (s.close index) before after := ⟨h.text_eq, h.pos_eq⟩

/-! ## Anchors and single characters -/

theorem anchor_eq_some {place : Anchor} {rest : Rest} {r : Cursor} :
    (Node.anchor place).matchAt text s rest = some r ↔
      place.holds text s.pos = true ∧ rest s = some r := by
  rw [Node.matchAt]
  split <;> simp [*]

/-- Where no line feed is ahead, the end of the last line is the end. -/
theorem finalLineEnd_holds (h : Between text s before after) (hline : '\n' ∉ after) :
    Anchor.holds text s.pos .finalLineEnd = true ↔ after = [] := by
  have hhead : (after.head? == some '\n') = false := by
    cases after with
    | nil => rfl
    | cons c rest =>
      have hc : c ≠ '\n' := fun he => hline (he ▸ List.mem_cons_self)
      rw [List.head?_cons]
      simpa using hc
  rw [Anchor.holds, h.getElem?, hhead, Bool.and_false, Bool.or_false, beq_iff_eq,
    h.pos_eq_size_iff]

theorem char_eq_some (h : Between text s before after) {modes : Modes} {shape : Shape}
    {rest : Rest} {r : Cursor} :
    (Node.char modes shape).matchAt text s rest = some r ↔
      ∃ c remaining, after = c :: remaining ∧ shape.accepts modes c = true ∧
        rest (s.moveTo (s.pos + [c].length)) = some r := by
  rw [Node.matchAt, h.getElem?]
  cases after with
  | nil => simp
  | cons c remaining =>
    by_cases hc : shape.accepts modes c = true <;> simp [hc]

/-! ## Runs -/

theorem runLength_eq {modes : Modes} {shape : Shape} {n : Nat} {before after : List Char}
    (htext : text.toList = before ++ after) (hn : after.length ≤ n) :
    runLength modes shape text before.length n =
      (after.takeWhile fun c => shape.accepts modes c).length := by
  induction n generalizing before after with
  | zero =>
    obtain rfl : after = [] := List.length_eq_zero_iff.mp (by omega)
    rfl
  | succ n ih =>
    have hget : text[before.length]? = after.head? :=
      getElem? (s := ⟨before.length, [], []⟩) ⟨htext, rfl⟩
    rw [runLength, hget]
    cases after with
    | nil => rfl
    | cons c rest =>
      have htext' : text.toList = (before ++ [c]) ++ rest := by simpa using htext
      have hrest := ih htext' (by simpa using hn)
      rw [List.length_append, List.length_singleton] at hrest
      by_cases hc : shape.accepts modes c = true
      · simp [hc, hrest]
      · simp [hc]

/-- A beginning that is accepted throughout is no longer than the longest one. -/
theorem length_le_takeWhile {q : Char → Bool} {piece : List Char} (remaining : List Char)
    (h : ∀ c ∈ piece, q c = true) :
    piece.length ≤ ((piece ++ remaining).takeWhile q).length := by
  rw [List.takeWhile_append_of_pos h, List.length_append]
  omega

/-- A beginning that is no longer than the longest accepted one is accepted throughout. -/
theorem forall_mem_take {q : Char → Bool} {l : List Char} {n : Nat}
    (h : n ≤ (l.takeWhile q).length) : ∀ c ∈ l.take n, q c = true := by
  have htake : l.take n = (l.takeWhile q).take n := by
    conv => lhs; rw [← List.takeWhile_append_dropWhile (p := q) (l := l)]
    rw [List.take_append_of_le_length h]
  intro c hc
  rw [htake] at hc
  exact List.all_eq_true.mp List.all_takeWhile c (List.mem_of_mem_take hc)

variable {least : Nat} {modes : Modes} {shape : Shape} {rest : Rest}

theorem run_matchAt (h : Between text s before after) :
    (Node.run ⟨least, none⟩ .greedy modes shape).matchAt text s rest =
      if (after.takeWhile fun c => shape.accepts modes c).length < least then none
      else longestFirst (fun n => rest (s.moveTo (s.pos + n))) least
        ((after.takeWhile fun c => shape.accepts modes c).length - least) := by
  have hlength : runLength modes shape text s.pos ((Bounds.mk least none).limit text s.pos) =
      (after.takeWhile fun c => shape.accepts modes c).length := by
    rw [h.pos_eq]
    refine runLength_eq h.text_eq ?_
    simp only [Bounds.limit]
    have := h.size_eq
    have := h.pos_eq
    omega
  simp only [Node.matchAt, matchRun, hlength]

/-- A greedy run lets the line match if some piece does. -/
theorem run_isSome_iff (h : Between text s before after) :
    ((Node.run ⟨least, none⟩ .greedy modes shape).matchAt text s rest).isSome = true ↔
      ∃ piece remaining, after = piece ++ remaining ∧ least ≤ piece.length ∧
        (∀ c ∈ piece, shape.accepts modes c = true) ∧
        (rest (s.moveTo (s.pos + piece.length))).isSome = true := by
  rw [h.run_matchAt]
  constructor
  · intro hsome
    split at hsome
    · simp at hsome
    · obtain ⟨n, hn, hle, hrest⟩ := longestFirst_isSome_iff.mp hsome
      have hlen : (after.take n).length = n := by
        have : (after.takeWhile fun c => shape.accepts modes c).length ≤ after.length :=
          (List.takeWhile_sublist _).length_le
        rw [List.length_take]
        omega
      refine ⟨after.take n, after.drop n, (List.take_append_drop n after).symm, by omega,
        forall_mem_take (by omega), ?_⟩
      rwa [hlen]
  · rintro ⟨piece, remaining, rfl, hleast, haccepts, hrest⟩
    have hlen := length_le_takeWhile remaining haccepts
    rw [if_neg (by omega)]
    exact longestFirst_isSome_iff.mpr ⟨piece.length, hleast, by omega, hrest⟩

/-- A greedy run takes a piece such that no longer one lets the line match. -/
theorem run_eq_some (h : Between text s before after) {r : Cursor}
    (hr : (Node.run ⟨least, none⟩ .greedy modes shape).matchAt text s rest = some r) :
    ∃ piece remaining, after = piece ++ remaining ∧ least ≤ piece.length ∧
      (∀ c ∈ piece, shape.accepts modes c = true) ∧
      rest (s.moveTo (s.pos + piece.length)) = some r ∧
      ∀ longer remaining', after = longer ++ remaining' → piece.length < longer.length →
        (∀ c ∈ longer, shape.accepts modes c = true) →
        rest (s.moveTo (s.pos + longer.length)) = none := by
  rw [h.run_matchAt] at hr
  split at hr
  · simp at hr
  · obtain ⟨n, hn, hle, hrest, hlonger⟩ := longestFirst_eq_some hr
    have hlen : (after.take n).length = n := by
      have : (after.takeWhile fun c => shape.accepts modes c).length ≤ after.length :=
        (List.takeWhile_sublist _).length_le
      rw [List.length_take]
      omega
    refine ⟨after.take n, after.drop n, (List.take_append_drop n after).symm, by omega,
      forall_mem_take (by omega), by rwa [hlen], ?_⟩
    rintro longer remaining' rfl hlt haccepts
    have := length_le_takeWhile remaining' haccepts
    exact hlonger longer.length (by omega) (by omega)

end Between

end MethodMacros.Pattern
