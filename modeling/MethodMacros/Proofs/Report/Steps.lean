import MethodMacros.Report.Log

/-!
# What one line does

Reading a report goes line by line, so whatever holds of a report is settled by what a single line
can do.  This file says that once, as a relation with one case for each way a line can turn out; what
is proved about whole reports looks at these cases and not at the definitions behind them.

* `LinePatterns.isError`, `LinePatterns.isDeclaration`, `LinePatterns.lacksName`,
  `LinePatterns.isSignature`: what a line can be to the patterns.
* `Outcome`, `outcome_step`: the ways in which a line can turn out, and that there are no others.
* `readFrom_cons_ok`, `readFrom_cons_error`: a reading is a step and the reading of the rest.

## The declaration in force

A line that declares a method replaces the declaration that waits before it is looked at for a
signature.  So the signature on a line is paired with what `inForce` gives, and a line that is a
declaration and a signature at once completes itself.
-/

namespace MethodMacros.Report

/-! ## Tests for a line -/

section Tests

variable (p : LinePatterns)

/-- The pattern for errors matches a line. -/
def LinePatterns.isError (line : String) : Bool := (p.error.match? line).isSome

/-- The pattern for declarations matches a line. -/
def LinePatterns.isDeclaration (line : String) : Bool := (p.name.match? line).isSome

/-- The pattern for declarations matches a line without capturing a name. -/
def LinePatterns.lacksName (line : String) : Bool :=
  (p.name.match? line).any fun m => (m.group? 1).isNone

/-- The pattern for signatures matches a line. -/
def LinePatterns.isSignature (line : String) : Bool := (p.signature.match? line).isSome

/-- The declaration on a line, or else the one that waits. -/
def LinePatterns.inForce (line : String) (pending : Option Declaration) : Option Declaration :=
  match (p.name.match? line).bind (·.group? 1) with
  | some name => some ⟨line, name⟩
  | none => pending

/-- A declaration that waits is told to be superseded as soon as another one is found. -/
def LinePatterns.supersession (line : String) (pending : Option Declaration) : List Event :=
  match p.name.match? line with
  | none => []
  | some m => (pending.map fun d => Event.superseded d.name (m.group? 1)).toList

end Tests

variable {p : LinePatterns} {line : String} {pending : Option Declaration}

/-- No record is complete by being superseded. -/
@[simp] theorem filterMap_record?_supersession :
    (p.supersession line pending).filterMap Event.record? = [] := by
  unfold LinePatterns.supersession
  cases p.name.match? line with
  | none => rfl
  | some m => cases pending <;> rfl

/-- Where nothing waits, nothing is superseded. -/
@[simp] theorem supersession_none : p.supersession line none = [] := by
  unfold LinePatterns.supersession
  cases p.name.match? line <;> rfl

/-- Only a declaration supersedes. -/
theorem supersession_of_not_isDeclaration (h : p.isDeclaration line = false) :
    p.supersession line pending = [] := by
  have hm : p.name.match? line = none := by
    simpa [LinePatterns.isDeclaration] using h
  simp [LinePatterns.supersession, hm]

/-- A line that is no declaration leaves in force what waits. -/
theorem inForce_of_not_isDeclaration (h : p.isDeclaration line = false) :
    p.inForce line pending = pending := by
  have hm : p.name.match? line = none := by
    simpa [LinePatterns.isDeclaration] using h
  simp [LinePatterns.inForce, hm]

/-- A declaration with a name is in force from its own line on. -/
theorem inForce_of_isDeclaration (pending : Option Declaration) (h : p.isDeclaration line = true)
    (hname : p.lacksName line = false) :
    ∃ m name, p.name.match? line = some m ∧ m.group? 1 = some name ∧
      p.inForce line pending = some ⟨line, name⟩ := by
  obtain ⟨m, hm⟩ := Option.isSome_iff_exists.mp h
  have hg : (m.group? 1).isNone = false := by
    simpa [LinePatterns.lacksName, hm] using hname
  obtain ⟨name, hn⟩ := Option.isSome_iff_exists.mp (Option.isNone_eq_false_iff.mp hg)
  exact ⟨m, name, hm, hn, by simp [LinePatterns.inForce, hm, hn]⟩

/-! ## The cases -/

/-- What a line can do: the events it causes, and the declaration that waits afterwards or the fault
that ends the reading. -/
inductive Outcome (p : LinePatterns) (line : String) (pending : Option Declaration) :
    List Event × Except Fault (Option Declaration) → Prop where
  | errorLine (herror : p.isError line = true) :
      Outcome p line pending ([.errorFound line], .error (.errorLine line))
  | nameNotCaptured (herror : p.isError line = false) (hname : p.lacksName line = true) :
      Outcome p line pending (p.supersession line pending, .error .nameNotCaptured)
  | orphan (herror : p.isError line = false) (hname : p.lacksName line = false)
      (hsign : p.isSignature line = true) (hforce : p.inForce line pending = none) :
      Outcome p line pending (p.supersession line pending, .error (.orphanSignature line))
  | unsigned (herror : p.isError line = false) (hname : p.lacksName line = false)
      (hsign : p.isSignature line = false) :
      Outcome p line pending (p.supersession line pending, .ok (p.inForce line pending))
  | paired (d : Declaration) (s : Pattern.Match) (herror : p.isError line = false)
      (hname : p.lacksName line = false) (hsign : p.signature.match? line = some s)
      (hforce : p.inForce line pending = some d) :
      Outcome p line pending
        (p.supersession line pending ++ [.completed (d.complete (s.group? 1) line)], .ok none)

/-- Looking at a line for a name that can be captured. -/
theorem declare_eq (hname : p.lacksName line = false) :
    declare line pending ((p.name.match? line).map (·.group? 1)) =
      (p.supersession line pending, .ok (p.inForce line pending)) := by
  cases hm : p.name.match? line with
  | none => simp [declare, LinePatterns.supersession, LinePatterns.inForce, hm]
  | some m =>
    have hd : p.isDeclaration line = true := by simp [LinePatterns.isDeclaration, hm]
    obtain ⟨m', name, hm', hn, hforce⟩ := inForce_of_isDeclaration pending hd hname
    obtain rfl : m = m' := Option.some.inj (hm.symm.trans hm')
    simp [declare, LinePatterns.supersession, hm, hn, hforce]

/-- Looking at a line for a name that is not captured. -/
theorem declare_eq_of_lacksName (hname : p.lacksName line = true) :
    declare line pending ((p.name.match? line).map (·.group? 1)) =
      (p.supersession line pending, .error .nameNotCaptured) := by
  obtain ⟨m, hm, hg⟩ := (Option.any_eq_true _ _).mp hname
  have hn : m.group? 1 = none := Option.isNone_iff_eq_none.mp hg
  simp [declare, LinePatterns.supersession, hm, hn]

/-- A line does one of these things. -/
theorem outcome_step (p : LinePatterns) (line : String) (pending : Option Declaration) :
    Outcome p line pending (step (p.sort line) line pending) := by
  have hsort : p.sort line = ⟨p.isError line, (p.name.match? line).map (·.group? 1),
      (p.signature.match? line).map (·.group? 1)⟩ := rfl
  rw [hsort]
  cases herror : p.isError line with
  | true => exact .errorLine herror
  | false =>
    cases hname : p.lacksName line with
    | true =>
      simp only [step, declare_eq_of_lacksName hname]
      exact .nameNotCaptured herror hname
    | false =>
      simp only [step, declare_eq hname]
      cases hs : p.signature.match? line with
      | none =>
        have hsign : p.isSignature line = false := by simp [LinePatterns.isSignature, hs]
        have h : Outcome p line pending _ := .unsigned herror hname hsign
        simpa [sign] using h
      | some s =>
        cases hforce : p.inForce line pending with
        | none =>
          have hsign : p.isSignature line = true := by simp [LinePatterns.isSignature, hs]
          simpa [sign] using Outcome.orphan herror hname hsign hforce
        | some d => exact .paired d s herror hname hs hforce

/-! ## Whole reports -/

/-- The records of a report are those that its events complete. -/
theorem records_eq (t : Transcript) :
    t.records = t.events.filterMap fun entry => entry.2.record? := by
  simp only [Transcript.records, Transcript.timedRecords, List.map_filterMap]
  congr 1
  funext entry
  cases entry.2.record? <;> rfl

/-- The log tells what happened, and not when. -/
theorem log_eq (t : Transcript) : t.log = (t.events.map (·.2)).map Event.logEntry := by
  rw [List.map_map]
  rfl

/-- When events happened says nothing about the records in them. -/
@[simp] theorem filterMap_record?_timed (n : Nat) (events : List Event) :
    (events.map ((n, ·))).filterMap (fun entry => entry.2.record?) =
      events.filterMap Event.record? := by
  rw [List.filterMap_map]
  rfl

/-- At the end of a report nothing more is recorded. -/
theorem records_readFrom_nil (sort : String → Sorted) (n : Nat) (pending : Option Declaration) :
    (readFrom sort n pending []).records = [] := by
  cases pending <;> rfl

/-- A line that stops the reading. -/
theorem readFrom_cons_error {sort : String → Sorted} {n : Nat} {events : List Event}
    {fault : Fault} (rest : List String) (h : step (sort line) line pending = (events, .error fault)) :
    readFrom sort n pending (line :: rest) =
      ⟨n + 1, events.map ((n + 1), ·), some fault⟩ := by
  simp only [readFrom, h]

/-- A line after which the reading goes on. -/
theorem readFrom_cons_ok {sort : String → Sorted} {n : Nat} {events : List Event}
    {waiting : Option Declaration} (rest : List String)
    (h : step (sort line) line pending = (events, .ok waiting)) :
    readFrom sort n pending (line :: rest) =
      { readFrom sort (n + 1) waiting rest with
        events := events.map ((n + 1), ·) ++ (readFrom sort (n + 1) waiting rest).events } := by
  simp only [readFrom, h]

end MethodMacros.Report
