import MethodMacros.Pattern.Matching

/-!
# Ways through a pattern

A part of a pattern hands its continuation one cursor after the other, and where the line matches, the
continuation matched at one of them.  `Leads R part` says that all of them are related to the cursor
that the part began with.  Relations that can be composed lead through every kind of repetition, so
what is to be shown for a pattern is shown by looking at its nodes.

## Groups on every way

The number of groups in a pattern says nothing about which of them take part in a match.  What does is
whether a group lies on every way through the tree, and `Node.captures` decides that as far as the
tree alone can tell.  It needs the companion `Node.lacks`: outside of a group, nothing may open it
again.
-/

namespace MethodMacros.Pattern

/-- Whenever a part and then the rest match, the rest matched at a cursor in the given relation to
the one that the part began with. -/
def Leads (R : Cursor → Cursor → Prop) (part : Part) : Prop :=
  ∀ s rest r, part s rest = some r → ∃ t, R s t ∧ rest t = some r

section Leads

variable {R : Cursor → Cursor → Prop} {part : Part}

/-- The first way through a part. -/
theorem Leads.of_some (h : Leads R part) {s t : Cursor} (ht : part s some = some t) : R s t := by
  obtain ⟨u, hu, hut⟩ := h s some t ht
  exact Option.some.inj hut ▸ hu

/-! ## Runs -/

theorem exists_of_longestFirst {attempt : Nat → Option Cursor} {least extra : Nat} {r : Cursor}
    (h : longestFirst attempt least extra = some r) : ∃ n, attempt n = some r := by
  induction extra with
  | zero => exact ⟨least, h⟩
  | succ extra ih =>
    rcases Option.or_eq_some_iff.mp h with hlast | ⟨-, hshorter⟩
    · exact ⟨_, hlast⟩
    · exact ih hshorter

theorem exists_of_shortestFirst {attempt : Nat → Option Cursor} {least extra : Nat} {r : Cursor}
    (h : shortestFirst attempt least extra = some r) : ∃ n, attempt n = some r := by
  induction extra generalizing least with
  | zero => exact ⟨least, h⟩
  | succ extra ih =>
    rcases Option.or_eq_some_iff.mp h with hfirst | ⟨-, hlonger⟩
    · exact ⟨_, hfirst⟩
    · exact ih hlonger

/-- A run only moves forward. -/
theorem leads_matchRun (text : Array Char) (bounds : Bounds) (greed : Greed) (modes : Modes)
    (shape : Shape) :
    Leads (fun s t => ∃ n, t = s.moveTo (s.pos + n)) (matchRun text bounds greed modes shape) := by
  intro s rest r h
  simp only [matchRun] at h
  split at h
  · cases h
  · cases greed with
    | greedy =>
      obtain ⟨n, hn⟩ := exists_of_longestFirst h
      exact ⟨_, ⟨n, rfl⟩, hn⟩
    | reluctant =>
      obtain ⟨n, hn⟩ := exists_of_shortestFirst h
      exact ⟨_, ⟨n, rfl⟩, hn⟩
    | possessive => exact ⟨_, ⟨_, rfl⟩, h⟩

/-! ## Turns of a repetition -/

variable (hpart : Leads R part) (htrans : ∀ {s t u}, R s t → R t u → R s u)

include hpart htrans

theorem leads_mandatory {rest : Rest} {n : Nat} {s r : Cursor} (h : mandatory part rest n s = some r) :
    ∃ t, (n = 0 ∧ t = s ∨ R s t) ∧ rest t = some r := by
  induction n generalizing s with
  | zero => exact ⟨s, .inl ⟨rfl, rfl⟩, h⟩
  | succ n ih =>
    obtain ⟨t, hst, ht⟩ := hpart s _ r h
    obtain ⟨u, ⟨-, rfl⟩ | htu, hu⟩ := ih ht
    · exact ⟨u, .inr hst, hu⟩
    · exact ⟨u, .inr (htrans hst htu), hu⟩

theorem leads_furtherGreedy {rest : Rest} {n : Nat} {left last : Option Nat} {s r : Cursor}
    (h : furtherGreedy part rest n left last s = some r) :
    ∃ t, (t = s ∨ R s t) ∧ rest t = some r := by
  induction n generalizing left last s with
  | zero => exact ⟨s, .inl rfl, h⟩
  | succ n ih =>
    rw [furtherGreedy] at h
    split at h
    · exact ⟨s, .inl rfl, h⟩
    · rcases Option.or_eq_some_iff.mp h with hturn | ⟨-, hrest⟩
      · obtain ⟨t, hst, ht⟩ := hpart s _ r hturn
        obtain ⟨u, rfl | htu, hu⟩ := ih ht
        · exact ⟨u, .inr hst, hu⟩
        · exact ⟨u, .inr (htrans hst htu), hu⟩
      · exact ⟨s, .inl rfl, hrest⟩

theorem leads_furtherReluctant {rest : Rest} {n : Nat} {left last : Option Nat} {s r : Cursor}
    (h : furtherReluctant part rest n left last s = some r) :
    ∃ t, (t = s ∨ R s t) ∧ rest t = some r := by
  induction n generalizing left last s with
  | zero => exact ⟨s, .inl rfl, h⟩
  | succ n ih =>
    rcases Option.or_eq_some_iff.mp h with hrest | ⟨-, hturn⟩
    · exact ⟨s, .inl rfl, hrest⟩
    · split at hturn
      · cases hturn
      · obtain ⟨t, hst, ht⟩ := hpart s _ r hturn
        obtain ⟨u, rfl | htu, hu⟩ := ih ht
        · exact ⟨u, .inr hst, hu⟩
        · exact ⟨u, .inr (htrans hst htu), hu⟩

theorem leads_mandatoryPossessive {n : Nat} {s t : Cursor}
    (h : mandatoryPossessive part n s = some t) : n = 0 ∧ t = s ∨ R s t := by
  induction n generalizing s with
  | zero => exact .inl ⟨rfl, (Option.some.inj h).symm⟩
  | succ n ih =>
    rw [mandatoryPossessive] at h
    split at h
    · rename_i u hu
      rcases ih h with ⟨-, rfl⟩ | hut
      · exact .inr (hpart.of_some hu)
      · exact .inr (htrans (hpart.of_some hu) hut)
    · cases h

theorem leads_furtherPossessive (n : Nat) (left last : Option Nat) (s : Cursor) :
    furtherPossessive part n left last s = s ∨ R s (furtherPossessive part n left last s) := by
  induction n generalizing left last s with
  | zero => exact .inl rfl
  | succ n ih =>
    rw [furtherPossessive]
    split
    · exact .inl rfl
    · split
      · rename_i t ht
        have hst := hpart.of_some ht
        rcases ih (left.map (· - 1)) (some s.pos) t with heq | htu
        · exact .inr (heq.symm ▸ hst)
        · exact .inr (htrans hst htu)
      · exact .inl rfl

/-- A relation that can be composed leads through a repetition, if the repetition has a turn or the
relation holds without one. -/
theorem leads_matchMany (text : Array Char) {bounds : Bounds} (greed : Greed)
    (hleast : bounds.least = 0 → ∀ s, R s s) : Leads R (matchMany text bounds greed part) := by
  intro s rest r h
  -- The mandatory turns lead to `t`, and further ones to `u`.
  have hboth : ∀ {t u}, (bounds.least = 0 ∧ t = s ∨ R s t) → (u = t ∨ R t u) → R s u := by
    rintro t u (⟨hzero, rfl⟩ | hst) (rfl | htu)
    · exact hleast hzero u
    · exact htu
    · exact hst
    · exact htrans hst htu
  unfold matchMany at h
  cases greed with
  | greedy =>
    obtain ⟨t, hst, ht⟩ := leads_mandatory hpart htrans h
    obtain ⟨u, htu, hu⟩ := leads_furtherGreedy hpart htrans ht
    exact ⟨u, hboth hst htu, hu⟩
  | reluctant =>
    obtain ⟨t, hst, ht⟩ := leads_mandatory hpart htrans h
    obtain ⟨u, htu, hu⟩ := leads_furtherReluctant hpart htrans ht
    exact ⟨u, hboth hst htu, hu⟩
  | possessive =>
    dsimp only at h
    split at h
    · rename_i t ht
      have hst := leads_mandatoryPossessive hpart htrans ht
      have htu := leads_furtherPossessive hpart htrans (text.size + 2)
        (bounds.most.map (· - bounds.least)) none t
      exact ⟨_, hboth hst htu, h⟩
    · cases h

end Leads

/-! ## What a pattern does to a group -/

/-- A group is neither opened nor closed in a part of a pattern. -/
def Node.lacks (i : Nat) : Node → Bool
  | .empty | .char _ _ | .run _ _ _ _ | .anchor _ | .again _ _ _ => true
  | .seq a b | .alt a b | .ifGroup _ a b => a.lacks i && b.lacks i
  | .many _ _ body | .atomic body | .ahead _ body | .behind _ _ body => body.lacks i
  | .group j body => j != i && body.lacks i

/-- A group lies on every way through a part of a pattern, so that it has captured something behind
it.  What stands in a negated look-around is left without captures. -/
def Node.captures (i : Nat) : Node → Bool
  | .empty | .char _ _ | .run _ _ _ _ | .anchor _ | .again _ _ _ => false
  | .seq a b => (a.captures i && b.lacks i) || (a.lacks i && b.captures i)
  | .alt a b | .ifGroup _ a b => a.captures i && b.captures i
  | .many bounds _ body => 0 < bounds.least && body.captures i
  | .group j body => if j = i then body.lacks i else body.captures i
  | .atomic body => body.captures i
  | .ahead negated body | .behind negated _ body => !negated && body.captures i

/-- The cursor did not go back, and nothing happened to a group. -/
structure Leaves (i : Nat) (s t : Cursor) : Prop where
  le : s.pos ≤ t.pos
  opened : t.opened.lookup i = s.opened.lookup i
  closed : t.closed.lookup i = s.closed.lookup i

/-- The cursor did not go back, and a group has captured something. -/
structure Captures (i : Nat) (s t : Cursor) : Prop where
  le : s.pos ≤ t.pos
  captured : (t.span? i).isSome = true

section Groups

variable {i : Nat} {s t u : Cursor}

theorem Leaves.refl (i : Nat) (s : Cursor) : Leaves i s s := ⟨Nat.le_refl _, rfl, rfl⟩

theorem Leaves.trans (h : Leaves i s t) (h' : Leaves i t u) : Leaves i s u :=
  ⟨Nat.le_trans h.le h'.le, h'.opened.trans h.opened, h'.closed.trans h.closed⟩

theorem Leaves.moveTo (h : Leaves i s t) {pos : Nat} (hpos : s.pos ≤ pos) :
    Leaves i s (t.moveTo pos) :=
  ⟨hpos, h.opened, h.closed⟩

theorem Leaves.span?_eq (h : Leaves i s t) : t.span? i = s.span? i := by
  rw [Cursor.span?, Cursor.span?, h.opened, h.closed]

theorem Captures.trans (h : Captures i s t) (h' : Captures i t u) : Captures i s u :=
  ⟨Nat.le_trans h.le h'.le, h'.captured⟩

theorem Captures.leaves (h : Captures i s t) (h' : Leaves i t u) : Captures i s u :=
  ⟨Nat.le_trans h.le h'.le, h'.span?_eq ▸ h.captured⟩

theorem Leaves.captures (h : Leaves i s t) (h' : Captures i t u) : Captures i s u :=
  ⟨Nat.le_trans h.le h'.le, h'.captured⟩

/-- A look-around comes back to where it began. -/
theorem Leaves.comeBack (hopened : t.opened.lookup i = s.opened.lookup i)
    (hclosed : t.closed.lookup i = s.closed.lookup i) : Leaves i s (t.moveTo s.pos) :=
  ⟨Nat.le_refl _, hopened, hclosed⟩

theorem Captures.comeBack (h : Captures i s t) (u : Cursor) : Captures i u (t.moveTo u.pos) :=
  ⟨Nat.le_refl _, h.captured⟩

/-- Another group is opened and closed. -/
theorem lookup_cons_of_ne {j : Nat} {entries : List (Nat × Nat)} (hne : j ≠ i) (pos : Nat) :
    ((j, pos) :: entries).lookup i = entries.lookup i := by
  rw [List.lookup_cons, beq_false_of_ne hne.symm]

theorem leaves_open {j : Nat} (hne : j ≠ i) (s : Cursor) : Leaves i s (s.open j) :=
  ⟨Nat.le_refl _, lookup_cons_of_ne hne s.pos, rfl⟩

theorem leaves_close {j : Nat} (hne : j ≠ i) (s : Cursor) : Leaves i s (s.close j) :=
  ⟨Nat.le_refl _, rfl, lookup_cons_of_ne hne s.pos⟩

/-- A group captures what lies between its ends, if nothing in between opens or closes it. -/
theorem captures_close (h : Leaves i (s.open i) t) : Captures i s (t.close i) := by
  have hopened : (t.close i).opened.lookup i = some s.pos := by
    rw [Cursor.close, h.opened, Cursor.open, List.lookup_cons_self]
  have hclosed : (t.close i).closed.lookup i = some t.pos := List.lookup_cons_self
  have hle : s.pos ≤ t.pos := h.le
  refine ⟨hle, ?_⟩
  rw [Cursor.span?, hopened, hclosed]
  simp [hle]

end Groups

/-! ## Nodes -/

section Nodes

variable {text : Array Char} {i : Nat}

/-- What does not contain a group does nothing to it. -/
theorem leads_leaves {node : Node} (h : node.lacks i = true) :
    Leads (Leaves i) (node.matchAt text) := by
  induction node with
  | empty => exact fun s rest r hr => ⟨s, .refl i s, hr⟩
  | char modes shape =>
    intro s rest r hr
    rw [Node.matchAt] at hr
    split at hr
    · split at hr
      · exact ⟨_, (Leaves.refl i s).moveTo (Nat.le_add_right _ _), hr⟩
      · cases hr
    · cases hr
  | run bounds greed modes shape =>
    intro s rest r hr
    obtain ⟨t, ⟨n, rfl⟩, ht⟩ := leads_matchRun text bounds greed modes shape s rest r hr
    exact ⟨_, (Leaves.refl i s).moveTo (Nat.le_add_right _ _), ht⟩
  | anchor place =>
    intro s rest r hr
    rw [Node.matchAt] at hr
    split at hr
    · exact ⟨s, .refl i s, hr⟩
    · cases hr
  | seq a b iha ihb =>
    intro s rest r hr
    obtain ⟨ha, hb⟩ := Bool.and_eq_true_iff.mp h
    obtain ⟨t, hst, ht⟩ := iha ha s _ r hr
    obtain ⟨u, htu, hu⟩ := ihb hb t _ r ht
    exact ⟨u, hst.trans htu, hu⟩
  | alt a b iha ihb =>
    intro s rest r hr
    obtain ⟨ha, hb⟩ := Bool.and_eq_true_iff.mp h
    rcases Option.or_eq_some_iff.mp hr with hfirst | ⟨-, hsecond⟩
    · exact iha ha s rest r hfirst
    · exact ihb hb s rest r hsecond
  | many bounds greed body ih =>
    exact leads_matchMany (ih h) Leaves.trans text greed fun _ => .refl i
  | group j body ih =>
    intro s rest r hr
    obtain ⟨hj, hbody⟩ := Bool.and_eq_true_iff.mp h
    have hne : j ≠ i := by simpa using hj
    obtain ⟨t, hst, ht⟩ := ih hbody (s.open j) _ r hr
    exact ⟨_, ((leaves_open hne s).trans hst).trans (leaves_close hne t), ht⟩
  | again j width modes =>
    intro s rest r hr
    rw [Node.matchAt, matchAgain] at hr
    split at hr
    · split at hr
      · exact ⟨_, (Leaves.refl i s).moveTo (Nat.le_add_right _ _), hr⟩
      · cases hr
    · cases hr
  | atomic body ih =>
    intro s rest r hr
    rw [Node.matchAt] at hr
    split at hr
    · rename_i t ht
      exact ⟨t, (ih h).of_some ht, hr⟩
    · cases hr
  | ahead negated body ih =>
    intro s rest r hr
    unfold Node.matchAt at hr
    split at hr
    · rename_i t ht
      exact ⟨_, ((ih h).of_some ht).moveTo (Nat.le_refl _), hr⟩
    · exact ⟨s, .refl i s, hr⟩
    · cases hr
  | behind negated width body ih =>
    intro s rest r hr
    unfold Node.matchAt at hr
    dsimp only at hr
    split at hr
    · rename_i t ht
      split at ht
      · cases ht
      · obtain ⟨-, hopened, hclosed⟩ := (ih h).of_some ht
        exact ⟨_, .comeBack hopened hclosed, hr⟩
    · exact ⟨s, .refl i s, hr⟩
    · cases hr
  | ifGroup j yes no ihyes ihno =>
    intro s rest r hr
    obtain ⟨hyes, hno⟩ := Bool.and_eq_true_iff.mp h
    rw [Node.matchAt] at hr
    split at hr
    · exact ihyes hyes s rest r hr
    · exact ihno hno s rest r hr

/-- A group that lies on every way through a node has captured something behind it. -/
theorem leads_captures {node : Node} (h : node.captures i = true) :
    Leads (Captures i) (node.matchAt text) := by
  induction node with
  | empty | char | run | anchor | again => cases h
  | seq a b iha ihb =>
    intro s rest r hr
    rcases Bool.or_eq_true_iff.mp h with h | h
    · obtain ⟨ha, hb⟩ := Bool.and_eq_true_iff.mp h
      obtain ⟨t, hst, ht⟩ := iha ha s _ r hr
      obtain ⟨u, htu, hu⟩ := leads_leaves hb t _ r ht
      exact ⟨u, hst.leaves htu, hu⟩
    · obtain ⟨ha, hb⟩ := Bool.and_eq_true_iff.mp h
      obtain ⟨t, hst, ht⟩ := leads_leaves ha s _ r hr
      obtain ⟨u, htu, hu⟩ := ihb hb t _ r ht
      exact ⟨u, hst.captures htu, hu⟩
  | alt a b iha ihb =>
    intro s rest r hr
    obtain ⟨ha, hb⟩ := Bool.and_eq_true_iff.mp h
    rcases Option.or_eq_some_iff.mp hr with hfirst | ⟨-, hsecond⟩
    · exact iha ha s rest r hfirst
    · exact ihb hb s rest r hsecond
  | many bounds greed body ih =>
    obtain ⟨hleast, hbody⟩ := Bool.and_eq_true_iff.mp h
    have hpos : 0 < bounds.least := of_decide_eq_true hleast
    exact leads_matchMany (ih hbody) Captures.trans text greed fun hzero => by omega
  | group j body ih =>
    intro s rest r hr
    rw [Node.captures] at h
    split at h
    · rename_i hj
      subst hj
      obtain ⟨t, hst, ht⟩ := leads_leaves h (s.open j) _ r hr
      exact ⟨_, captures_close hst, ht⟩
    · rename_i hne
      obtain ⟨t, hst, ht⟩ := ih h (s.open j) _ r hr
      exact ⟨_, ((leaves_open hne s).captures hst).leaves (leaves_close hne t), ht⟩
  | atomic body ih =>
    intro s rest r hr
    rw [Node.matchAt] at hr
    split at hr
    · rename_i t ht
      exact ⟨t, (ih h).of_some ht, hr⟩
    · cases hr
  | ahead negated body ih =>
    intro s rest r hr
    obtain ⟨hnegated, hbody⟩ := Bool.and_eq_true_iff.mp h
    obtain rfl : negated = false := by simpa using hnegated
    unfold Node.matchAt at hr
    split at hr
    · rename_i t ht _
      exact ⟨_, ((ih hbody).of_some ht).comeBack s, hr⟩
    · contradiction
    · cases hr
  | behind negated width body ih =>
    intro s rest r hr
    obtain ⟨hnegated, hbody⟩ := Bool.and_eq_true_iff.mp h
    obtain rfl : negated = false := by simpa using hnegated
    unfold Node.matchAt at hr
    dsimp only at hr
    split at hr
    · rename_i t ht _
      split at ht
      · cases ht
      · exact ⟨_, ((ih hbody).of_some ht).comeBack s, hr⟩
    · contradiction
    · cases hr
  | ifGroup j yes no ihyes ihno =>
    intro s rest r hr
    obtain ⟨hyes, hno⟩ := Bool.and_eq_true_iff.mp h
    rw [Node.matchAt] at hr
    split at hr
    · exact ihyes hyes s rest r hr
    · exact ihno hno s rest r hr

/-- **Groups on every way.**  A group that lies on every way through the tree of a pattern takes
part in every match. -/
theorem isSome_group?_of_captures {p : Pattern} {line : String} {m : Match}
    (h : p.tree.captures i = true) (hm : p.match? line = some m) : (m.group? i).isSome = true := by
  obtain ⟨t, hmatch, rfl⟩ := Option.map_eq_some_iff.mp hm
  obtain ⟨u, hu, hend⟩ := leads_captures h _ _ _ hmatch
  split at hend
  · obtain rfl := Option.some.inj hend
    rw [Match.group?, Option.isSome_map]
    exact hu.captured
  · cases hend

end Nodes

end MethodMacros.Pattern
