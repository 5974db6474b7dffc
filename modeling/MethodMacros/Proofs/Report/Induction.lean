import MethodMacros.Proofs.Report.Pairing

/-!
# From lines to readings

What a line does depends on the declaration that waits, and what waits tells what stood in the lines
before.  A property of readings that uses the one or the other is proved from the last line back to
the first: it holds where the report ends, it holds where a line stops the reading, and a line after
which the reading goes on keeps it.  `read_induction` is this argument, with all that is known about
the line at hand.
-/

namespace MethodMacros.Report

variable {p : LinePatterns} {L : List String} {i : Nat} {line : String}
  {pending : Option Declaration} {events : List Event}

/-- A line that stops the reading is at fault. -/
theorem Awaits.faultAt {fault : Fault} (h : Awaits p L i i pending) (hline : L[i]? = some line)
    (hout : Outcome p line pending (events, .error fault)) : FaultAt p L i fault := by
  cases hout with
  | errorLine herror => exact .errorLine line hline herror
  | nameNotCaptured herror hname => exact .nameNotCaptured line hline herror hname
  | orphan herror hname hsign hforce =>
    have hawaits := h.inForce hline hname
    have hawaited : ¬ IsAwaited p L i := by simp [hawaits.isAwaited_iff, hforce]
    exact .orphan line hline herror hname hsign hawaited

/-- A line after which the reading goes on does not fail, and what waits then tells the past. -/
theorem Awaits.next {waiting : Option Declaration} (h : Awaits p L i i pending)
    (hline : L[i]? = some line) (hout : Outcome p line pending (events, .ok waiting)) :
    ¬ Fails p L i ∧ Awaits p L (i + 1) (i + 1) waiting := by
  cases hout with
  | unsigned herror hname hsign =>
    have hsignAt : ¬ LineAt p.isSignature L i := by simp [lineAt_iff hline, hsign]
    have hfails : ¬ Fails p L i := by simp [Fails, lineAt_iff hline, herror, hname, hsign]
    exact ⟨hfails, (h.inForce hline hname).unsigned hsignAt⟩
  | paired d s herror hname hs hforce =>
    have hsign : p.isSignature line = true := by simp [LinePatterns.isSignature, hs]
    have hsignAt : LineAt p.isSignature L i := (lineAt_iff hline).mpr hsign
    have hawaited : IsAwaited p L i := by simp [(h.inForce hline hname).isAwaited_iff, hforce]
    have hfails : ¬ Fails p L i := by simp [Fails, lineAt_iff hline, herror, hname, hawaited]
    exact ⟨hfails, awaits_of_isSignature hsignAt⟩

section Principle

variable {motive : Nat → Transcript → Prop}
  (ends : ∀ pending, Awaits p L L.length L.length pending →
    motive L.length (readFrom p.sort L.length pending []))
  (stops : ∀ i line pending events fault, L[i]? = some line → Awaits p L i i pending →
    Outcome p line pending (events, .error fault) → FaultAt p L i fault →
    motive i ⟨i + 1, events.map ((i + 1), ·), some fault⟩)
  (goesOn : ∀ i line pending events waiting t, L[i]? = some line → Awaits p L i i pending →
    Outcome p line pending (events, .ok waiting) → ¬ Fails p L i → motive (i + 1) t →
    motive i { t with events := events.map ((i + 1), ·) ++ t.events })
include ends stops goesOn

/-- What the end, a line at fault and a line that is read give, all readings have. -/
theorem readFrom_induction {rest : List String} (hrest : L.drop i = rest) (hi : i ≤ L.length)
    (h : Awaits p L i i pending) : motive i (readFrom p.sort i pending rest) := by
  induction rest generalizing i pending with
  | nil =>
    have hlen : i = L.length := by
      have := List.drop_eq_nil_iff.mp hrest
      omega
    subst hlen
    exact ends pending h
  | cons line rest ih =>
    have hline : L[i]? = some line := by
      rw [← List.head?_drop, hrest, List.head?_cons]
    have hrest' : L.drop (i + 1) = rest := by
      rw [← List.tail_drop, hrest, List.tail_cons]
    have hlt : i < L.length := (List.getElem?_eq_some_iff.mp hline).1
    have hout := outcome_step p line pending
    rcases hstep : step (p.sort line) line pending with ⟨events, fault | waiting⟩
    · rw [hstep] at hout
      rw [readFrom_cons_error rest hstep]
      exact stops i line pending events fault hline h hout (h.faultAt hline hout)
    · rw [hstep] at hout
      obtain ⟨hfails, hnext⟩ := h.next hline hout
      rw [readFrom_cons_ok rest hstep]
      exact goesOn i line pending events waiting _ hline h hout hfails (ih hrest' hlt hnext)

theorem read_induction : motive 0 (read p L) :=
  readFrom_induction ends stops goesOn rfl (Nat.zero_le _) awaits_start

end Principle

end MethodMacros.Report
