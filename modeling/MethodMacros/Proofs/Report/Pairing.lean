import MethodMacros.Proofs.Report.Steps
import Mathlib.Data.List.Forall2

/-!
# How declarations and signatures are paired

`Report.read` carries one declaration along and hands out records as it goes.  Here the same records
are described without any state: a signature line belongs to the latest declaration up to it, and a
line is at fault by what stands in the lines before it.

* `Fails`, `FaultAt`, `FirstFailure`: which lines fail, how, and which of them is the first.
* `RecordAt`: the record that a signature line completes.
* `RunsTo`: a reading gives the records and the fault that are described so, from a line on.
  `RunsTo.cons` goes one line back, and `runsTo_readFrom` is the induction.
* `read_pairs`: the law for whole reports.

## The invariant

`Awaits p L n i` says what the declaration that waits tells about the past, when the lines before
`n` have been looked at for names and those before `i` for signatures.  Within a line the two numbers
differ by one, between lines they are equal.  A declaration that waits is the latest one and has met
no signature; if none waits, each declaration has met one.
-/

namespace MethodMacros.Report

/-! ## The lines of a report by their places -/

/-- There is a line at a place, and it passes a test. -/
def LineAt (test : String → Bool) (L : List String) (i : Nat) : Prop :=
  ∃ line, L[i]? = some line ∧ test line = true

theorem lineAt_iff {test : String → Bool} {L : List String} {i : Nat} {line : String}
    (h : L[i]? = some line) : LineAt test L i ↔ test line = true := by
  simp [LineAt, h]

instance (test : String → Bool) (L : List String) : DecidablePred (LineAt test L) := fun i =>
  match h : L[i]? with
  | some _ => decidable_of_iff _ (lineAt_iff h).symm
  | none => .isFalse fun ⟨_, hline, _⟩ => by simp [h] at hline

variable (p : LinePatterns) (L : List String)

/-- A declaration up to the line `i` has met no signature before that line. -/
def IsAwaited (i : Nat) : Prop :=
  ∃ j ≤ i, LineAt p.isDeclaration L j ∧ ∀ k, j ≤ k → k < i → ¬ LineAt p.isSignature L k

/-- A line that a report cannot be read beyond: an error line, a declaration without a name, or a
signature that no declaration waits for. -/
def Fails (i : Nat) : Prop :=
  LineAt p.isError L i ∨ LineAt p.lacksName L i ∨ LineAt p.isSignature L i ∧ ¬ IsAwaited p L i

/-- The fault of a line; of several the first in this order counts. -/
inductive FaultAt (i : Nat) : Fault → Prop where
  | errorLine (line : String) (hline : L[i]? = some line) (herror : p.isError line = true) :
      FaultAt i (.errorLine line)
  | nameNotCaptured (line : String) (hline : L[i]? = some line) (herror : p.isError line = false)
      (hname : p.lacksName line = true) : FaultAt i .nameNotCaptured
  | orphan (line : String) (hline : L[i]? = some line) (herror : p.isError line = false)
      (hname : p.lacksName line = false) (hsign : p.isSignature line = true)
      (hawaited : ¬ IsAwaited p L i) : FaultAt i (.orphanSignature line)

/-- The first line that fails, or the number of lines if none does. -/
structure FirstFailure (f : Nat) : Prop where
  le_length : f ≤ L.length
  fails : f < L.length → Fails p L f
  before : ∀ i < f, ¬ Fails p L i

/-- The record of a signature line `i`: it is made of this line and of the greatest `j ≤ i` that is
a declaration. -/
def RecordAt (i : Nat) (r : MethodRecord) : Prop :=
  ∃ j ≤ i, ∃ declaration line m s, L[j]? = some declaration ∧ L[i]? = some line ∧
    p.name.match? declaration = some m ∧ p.signature.match? line = some s ∧
    (∀ k, j < k → k ≤ i → ¬ LineAt p.isDeclaration L k) ∧ m.group? 1 = some r.name ∧
    r.declarationLine = declaration ∧ r.macroStem = Naming.macroStem r.name ∧
    r.signature = s.group? 1 ∧ r.signatureLine = some line

variable {p L}

theorem FaultAt.fails {i : Nat} {fault : Fault} (h : FaultAt p L i fault) : Fails p L i := by
  cases h with
  | errorLine line hline herror => exact .inl ⟨line, hline, herror⟩
  | nameNotCaptured line hline _ hname => exact .inr (.inl ⟨line, hline, hname⟩)
  | orphan line hline _ _ hsign hawaited => exact .inr (.inr ⟨⟨line, hline, hsign⟩, hawaited⟩)

theorem FaultAt.lt_length {i : Nat} {fault : Fault} (h : FaultAt p L i fault) : i < L.length := by
  cases h <;> exact (List.getElem?_eq_some_iff.mp ‹L[i]? = some _›).1

/-! ## The invariant -/

variable (p L) in
/-- What waits when lines before `n` have been looked at for names, and those before `i` for
signatures. -/
def Awaits (n i : Nat) : Option Declaration → Prop
  | none =>
      ∀ j < n, LineAt p.isDeclaration L j → ∃ k, j ≤ k ∧ k < i ∧ LineAt p.isSignature L k
  | some d =>
      ∃ j < n, L[j]? = some d.line ∧
        (∃ m, p.name.match? d.line = some m ∧ m.group? 1 = some d.name) ∧
        (∀ k, j < k → k < n → ¬ LineAt p.isDeclaration L k) ∧
        ∀ k, j ≤ k → k < i → ¬ LineAt p.isSignature L k

theorem awaits_start : Awaits p L 0 0 none := fun _ hj => absurd hj (Nat.not_lt_zero _)

/-- Looking at a line for a name. -/
theorem Awaits.inForce {i : Nat} {line : String} {pending : Option Declaration}
    (h : Awaits p L i i pending) (hline : L[i]? = some line) (hname : p.lacksName line = false) :
    Awaits p L (i + 1) i (p.inForce line pending) := by
  cases hd : p.isDeclaration line with
  | true =>
    obtain ⟨m, name, hm, hn, hforce⟩ := inForce_of_isDeclaration pending hd hname
    rw [hforce]
    refine ⟨i, Nat.lt_succ_self i, hline, ⟨m, hm, hn⟩, fun k _ _ => ?_, fun k _ _ => ?_⟩ <;> omega
  | false =>
    have hi : ¬ LineAt p.isDeclaration L i := by simp [lineAt_iff hline, hd]
    rw [inForce_of_not_isDeclaration hd]
    cases pending with
    | none =>
      intro j hj hdecl
      have hne : j ≠ i := fun he => hi (he ▸ hdecl)
      exact h j (by omega) hdecl
    | some d =>
      obtain ⟨j, hj, hdline, hdname, hlast, hunmet⟩ := h
      refine ⟨j, by omega, hdline, hdname, fun k hjk hk => ?_, hunmet⟩
      rcases Nat.lt_succ_iff_lt_or_eq.mp hk with hk | rfl
      · exact hlast k hjk hk
      · exact hi

/-- A line that is no signature leaves waiting what is in force. -/
theorem Awaits.unsigned {n i : Nat} {pending : Option Declaration} (h : Awaits p L n i pending)
    (hsign : ¬ LineAt p.isSignature L i) : Awaits p L n (i + 1) pending := by
  cases pending with
  | none =>
    intro j hj hdecl
    obtain ⟨k, hjk, hk, hsig⟩ := h j hj hdecl
    exact ⟨k, hjk, by omega, hsig⟩
  | some d =>
    obtain ⟨j, hj, hdline, hdname, hlast, hunmet⟩ := h
    refine ⟨j, hj, hdline, hdname, hlast, fun k hjk hk => ?_⟩
    rcases Nat.lt_succ_iff_lt_or_eq.mp hk with hk | rfl
    · exact hunmet k hjk hk
    · exact hsign

/-- After a signature each declaration so far has met one. -/
theorem awaits_of_isSignature {i : Nat} (hsign : LineAt p.isSignature L i) :
    Awaits p L (i + 1) (i + 1) none :=
  fun _ hj _ => ⟨i, by omega, Nat.lt_succ_self i, hsign⟩

/-- A signature is awaited exactly if some declaration is in force. -/
theorem Awaits.isAwaited_iff {i : Nat} {d : Option Declaration} (h : Awaits p L (i + 1) i d) :
    IsAwaited p L i ↔ d.isSome = true := by
  cases d with
  | none =>
    refine iff_of_false ?_ (by simp)
    rintro ⟨j, hj, hdecl, hunmet⟩
    obtain ⟨k, hjk, hk, hsig⟩ := h j (by omega) hdecl
    exact hunmet k hjk hk hsig
  | some d =>
    refine iff_of_true ?_ rfl
    obtain ⟨j, hj, hdline, ⟨m, hm, _⟩, _, hunmet⟩ := h
    have hdecl : p.isDeclaration d.line = true := by simp [LinePatterns.isDeclaration, hm]
    exact ⟨j, by omega, ⟨d.line, hdline, hdecl⟩, hunmet⟩

/-- What a signature line completes is its record. -/
theorem Awaits.recordAt {i : Nat} {line : String} {d : Declaration} {s : Pattern.Match}
    (h : Awaits p L (i + 1) i (some d)) (hline : L[i]? = some line)
    (hs : p.signature.match? line = some s) : RecordAt p L i (d.complete (s.group? 1) line) := by
  obtain ⟨j, hj, hdline, ⟨m, hm, hn⟩, hlast, -⟩ := h
  exact ⟨j, by omega, d.line, line, m, s, hdline, hline, hm, hs,
    fun k hjk hk => hlast k hjk (by omega), hn, rfl, rfl, rfl, rfl⟩

/-! ## A run from any line on -/

variable (p L) in
/-- How the reading goes on from the line `i`: it gets to the line `f`, with the records of the
signature lines in between. -/
structure RunsTo (i f : Nat) (t : Transcript) : Prop where
  le : i ≤ f
  le_length : f ≤ L.length
  before : ∀ k, i ≤ k → k < f → ¬ Fails p L k
  records : List.Forall₂ (RecordAt p L)
    ((List.range' i (f - i)).filter fun k => LineAt p.isSignature L k) t.records
  fault : match t.fault with
    | none => f = L.length
    | some fault => FaultAt p L f fault

/-- A fault in the line at hand ends the reading there. -/
theorem RunsTo.of_faultAt {i n : Nat} {fault : Fault} {events : List (Nat × Event)}
    (h : FaultAt p L i fault)
    (hrecords : (events.filterMap fun entry => entry.2.record?) = []) :
    RunsTo p L i i ⟨n, events, some fault⟩ where
  le := Nat.le_refl i
  le_length := Nat.le_of_lt h.lt_length
  before k hik hk := absurd hk (by omega)
  records := by simp [records_eq, hrecords]
  fault := h

/-- A line that does not fail, with the record that it completes, goes before the rest. -/
theorem RunsTo.cons {i f : Nat} {t : Transcript} {events : List (Nat × Event)}
    (hfails : ¬ Fails p L i) (ht : RunsTo p L (i + 1) f t)
    (hrecords : List.Forall₂ (RecordAt p L) (if LineAt p.isSignature L i then [i] else [])
      (events.filterMap fun entry => entry.2.record?)) :
    RunsTo p L i f { t with events := events ++ t.events } where
  le := by have := ht.le; omega
  le_length := ht.le_length
  before k hik hk := by
    rcases Nat.lt_or_eq_of_le hik with hlt | rfl
    · exact ht.before k hlt hk
    · exact hfails
  records := by
    have hle := ht.le
    have hrange : List.range' i (f - i) = i :: List.range' (i + 1) (f - (i + 1)) := by
      rw [show f - i = f - (i + 1) + 1 by omega, List.range'_succ]
    have hrest := ht.records
    rw [records_eq] at hrest
    rw [hrange, records_eq, List.filterMap_append]
    by_cases hsign : LineAt p.isSignature L i
    · rw [if_pos hsign] at hrecords
      rw [List.filter_cons_of_pos (by simpa using hsign)]
      exact List.rel_append hrecords hrest
    · rw [if_neg hsign] at hrecords
      rw [List.filter_cons_of_neg (by simpa using hsign)]
      exact List.rel_append hrecords hrest
  fault := ht.fault

/-- Reading from a line on, when what waits tells the past. -/
theorem runsTo_readFrom {rest : List String} {i : Nat} {pending : Option Declaration}
    (hrest : L.drop i = rest) (hi : i ≤ L.length) (h : Awaits p L i i pending) :
    ∃ f, RunsTo p L i f (readFrom p.sort i pending rest) := by
  induction rest generalizing i pending with
  | nil =>
    have hlen : i = L.length := by
      have := List.drop_eq_nil_iff.mp hrest
      omega
    refine ⟨i, Nat.le_refl i, hi, fun k hik hk => by omega, ?_, hlen⟩
    rw [records_readFrom_nil]
    simp
  | cons line rest ih =>
    have hline : L[i]? = some line := by
      rw [← List.head?_drop, hrest, List.head?_cons]
    have hrest' : L.drop (i + 1) = rest := by
      rw [← List.tail_drop, hrest, List.tail_cons]
    have hlt : i < L.length := (List.getElem?_eq_some_iff.mp hline).1
    have hout := outcome_step p line pending
    generalize hstep : step (p.sort line) line pending = result at hout
    cases hout with
    | errorLine herror =>
      rw [readFrom_cons_error rest hstep]
      exact ⟨i, .of_faultAt (.errorLine line hline herror) rfl⟩
    | nameNotCaptured herror hname =>
      rw [readFrom_cons_error rest hstep]
      exact ⟨i, .of_faultAt (.nameNotCaptured line hline herror hname) (by simp)⟩
    | orphan herror hname hsign hforce =>
      rw [readFrom_cons_error rest hstep]
      have hawaits := h.inForce hline hname
      have hawaited : ¬ IsAwaited p L i := by simp [hawaits.isAwaited_iff, hforce]
      exact ⟨i, .of_faultAt (.orphan line hline herror hname hsign hawaited) (by simp)⟩
    | unsigned herror hname hsign =>
      rw [readFrom_cons_ok rest hstep]
      have hsignAt : ¬ LineAt p.isSignature L i := by simp [lineAt_iff hline, hsign]
      have hfails : ¬ Fails p L i := by
        simp [Fails, lineAt_iff hline, herror, hname, hsign]
      obtain ⟨f, hf⟩ := ih hrest' hlt ((h.inForce hline hname).unsigned hsignAt)
      exact ⟨f, hf.cons hfails (by simp [hsignAt])⟩
    | paired d s herror hname hs hforce =>
      rw [readFrom_cons_ok rest hstep]
      have hsign : p.isSignature line = true := by simp [LinePatterns.isSignature, hs]
      have hsignAt : LineAt p.isSignature L i := (lineAt_iff hline).mpr hsign
      have hawaits := h.inForce hline hname
      have hawaited : IsAwaited p L i := by simp [hawaits.isAwaited_iff, hforce]
      have hfails : ¬ Fails p L i := by
        simp [Fails, lineAt_iff hline, herror, hname, hawaited]
      obtain ⟨f, hf⟩ := ih hrest' hlt (awaits_of_isSignature hsignAt)
      have hrecord := (hforce ▸ hawaits).recordAt hline hs
      refine ⟨f, hf.cons hfails ?_⟩
      rw [if_pos hsignAt, filterMap_record?_timed, List.filterMap_append,
        filterMap_record?_supersession]
      exact .cons hrecord .nil

/-! ## The law -/

/-- **Pairing.**  A report is read up to its first line that fails, which decides the fault.  The
records are those of the signature lines before it, one for each, in their order. -/
theorem read_pairs (p : LinePatterns) (L : List String) :
    ∃ f, FirstFailure p L f ∧
      List.Forall₂ (RecordAt p L)
        ((List.range f).filter fun i => LineAt p.isSignature L i) (read p L).records ∧
      match (read p L).fault with
      | none => f = L.length
      | some fault => FaultAt p L f fault := by
  obtain ⟨f, hf⟩ := runsTo_readFrom (i := 0) rfl (Nat.zero_le _) (awaits_start (p := p) (L := L))
  refine ⟨f, ⟨hf.le_length, fun hlt => ?_, fun i hi => hf.before i (Nat.zero_le i) hi⟩, ?_, hf.fault⟩
  · have hfault := hf.fault
    rcases hcase : (readFrom p.sort 0 none (L.drop 0)).fault with - | fault
    · rw [hcase] at hfault
      exact absurd hfault (Nat.ne_of_lt hlt)
    · rw [hcase] at hfault
      exact FaultAt.fails hfault
  · have hrecords := hf.records
    rwa [Nat.sub_zero, ← List.range_eq_range'] at hrecords

end MethodMacros.Report
