import MethodMacros.Proofs.Report.Concatenation
import MethodMacros.Proofs.Report.Sufficiency

/-!
# The normal form of a report

The records of a report keep the lines that they come from, so a report can be written from them: for
each record its declaration and its signature, without anything in between.  Reading it gives the same
records, whatever the patterns are, and nothing is superseded or dropped on the way.

* `isFrom_of_mem`: where a record comes from tells what the patterns make of its lines.
* `readFrom_sourceLines`: the lines of a record are read as this record, whatever comes next.
* `read_normalForm`: so is the whole normal form.

## One line or two

Patterns may overlap, so a line can be a declaration and a signature at once.  If it is read as a
declaration, it completes itself, and then it is the whole record.  If a record has two lines, then the
first is no signature, since it would have completed itself, and the second is no declaration, since it
would have superseded the first.  So the two lines of a record differ, and a record whose lines are
equal as texts comes from one line; `IsFrom` says this, and `normalForm` relies on it.
-/

namespace MethodMacros.Report

/-- The lines that a record comes from: its declaration, and its signature if that is another
line. -/
def MethodRecord.sourceLines (r : MethodRecord) : List String :=
  r.declarationLine :: (r.signatureLine.filter (· != r.declarationLine)).toList

/-- The report that is written from records: the lines of each, in their order. -/
def normalForm (records : List MethodRecord) : List String :=
  records.flatMap MethodRecord.sourceLines

/-- A record is what the patterns make of its declaration and of a signature line.  If these are two
lines, neither of them is both. -/
structure MethodRecord.IsFrom (p : LinePatterns) (r : MethodRecord) (line : String) : Prop where
  signed : r.signatureLine = some line
  stem : r.macroStem = Naming.macroStem r.name
  declares : ∃ m, p.name.match? r.declarationLine = some m ∧ m.group? 1 = some r.name
  signs : ∃ s, p.signature.match? line = some s ∧ r.signature = s.group? 1
  declaration_noError : p.isError r.declarationLine = false
  line_noError : p.isError line = false
  apart : line ≠ r.declarationLine →
    p.isSignature r.declarationLine = false ∧ p.isDeclaration line = false

variable {p : LinePatterns} {L : List String} {r : MethodRecord} {line : String}

/-! ## Where records come from -/

/-- A declaration that a signature line `i` belongs to has met no signature before. -/
theorem not_isSignature_of_isAwaited {i j : Nat} (h : IsAwaited p L i) (hji : j < i)
    (hlast : ∀ k, j < k → k ≤ i → ¬ LineAt p.isDeclaration L k) : ¬ LineAt p.isSignature L j := by
  obtain ⟨j', hj', hdeclares, hunmet⟩ := h
  have hle : j' ≤ j := by
    by_contra hlt
    exact hlast j' (Nat.lt_of_not_le hlt) hj' hdeclares
  exact hunmet j hle hji

/-- The record of a line comes from its lines, if none up to there fails. -/
theorem RecordAt.isFrom {i : Nat} (h : RecordAt p L i r) (hread : ∀ k ≤ i, ¬ Fails p L k) :
    ∃ line, r.IsFrom p line := by
  obtain ⟨j, hj, declaration, line, m, s, hdeclaration, hline, hm, hs, hlast, hname, hsource, hstem,
    hsignature, hsigned⟩ := h
  subst hsource
  obtain ⟨herror, -, hawaited⟩ := (not_fails_iff hline).mp (hread i (Nat.le_refl i))
  obtain ⟨herror', -, -⟩ := (not_fails_iff hdeclaration).mp (hread j hj)
  have hsign : p.isSignature line = true := by simp [LinePatterns.isSignature, hs]
  refine ⟨line, hsigned, hstem, ⟨m, hm, hname⟩, ⟨s, hs, hsignature⟩, herror', herror, fun hne => ?_⟩
  -- Texts that differ stand on different lines, so the signature comes after the declaration.
  have hji : j < i := by
    refine Nat.lt_of_le_of_ne hj fun he => ?_
    subst he
    exact hne (Option.some.inj (hline.symm.trans hdeclaration))
  have hunsigned := not_isSignature_of_isAwaited (hawaited hsign) hji hlast
  have hundeclared := hlast i hji (Nat.le_refl i)
  rw [lineAt_iff hdeclaration, Bool.not_eq_true] at hunsigned
  rw [lineAt_iff hline, Bool.not_eq_true] at hundeclared
  exact ⟨hunsigned, hundeclared⟩

theorem isFrom_of_mem (hr : r ∈ (read p L).records) : ∃ line, r.IsFrom p line := by
  obtain ⟨f, hf, hrecords, -⟩ := read_pairs p L
  obtain ⟨i, hi, hrecord⟩ := exists_of_forall₂ hrecords hr
  have hlt : i < f := List.mem_range.mp (List.mem_filter.mp hi).1
  exact hrecord.isFrom fun k hk => hf.before k (Nat.lt_of_le_of_lt hk hlt)

/-! ## Reading the lines of a record -/

namespace MethodRecord.IsFrom

variable (h : r.IsFrom p line)
include h

theorem complete_eq {s : Pattern.Match} (hs : r.signature = s.group? 1) :
    Declaration.complete ⟨r.declarationLine, r.name⟩ (s.group? 1) line = r := by
  rw [Declaration.complete, ← h.stem, ← hs, ← h.signed]

theorem inForce_declaration (pending : Option Declaration) :
    p.inForce r.declarationLine pending = some ⟨r.declarationLine, r.name⟩ := by
  obtain ⟨m, hm, hname⟩ := h.declares
  simp [LinePatterns.inForce, hm, hname]

theorem not_lacksName_declaration : p.lacksName r.declarationLine = false := by
  obtain ⟨m, hm, hname⟩ := h.declares
  simp [LinePatterns.lacksName, hm, hname]

/-- A record with one line: the line declares the method and completes it. -/
theorem step_of_eq (hsame : line = r.declarationLine) :
    step (p.sort line) line none = ([.completed r], .ok none) := by
  obtain ⟨s, hs, hsignature⟩ := h.signs
  have hname : p.lacksName line = false := hsame ▸ h.not_lacksName_declaration
  have hforce : p.inForce line none = some ⟨r.declarationLine, r.name⟩ := by
    rw [hsame]
    exact h.inForce_declaration none
  rw [step_of_paired h.line_noError hname hs hforce, supersession_none, h.complete_eq hsignature]
  rfl

/-- The first of two lines of a record: the declaration waits from there on. -/
theorem step_declaration (hne : line ≠ r.declarationLine) :
    step (p.sort r.declarationLine) r.declarationLine none =
      ([], .ok (some ⟨r.declarationLine, r.name⟩)) := by
  have hunsigned := (h.apart hne).1
  rw [step_of_unsigned none h.declaration_noError h.not_lacksName_declaration hunsigned,
    supersession_none, h.inForce_declaration none]

/-- The second of two lines of a record: it completes the declaration that waits. -/
theorem step_signature (hne : line ≠ r.declarationLine) :
    step (p.sort line) line (some ⟨r.declarationLine, r.name⟩) = ([.completed r], .ok none) := by
  obtain ⟨s, hs, hsignature⟩ := h.signs
  have hundeclared := (h.apart hne).2
  have hm : p.name.match? line = none := by
    simpa [LinePatterns.isDeclaration] using hundeclared
  have hname : p.lacksName line = false := by simp [LinePatterns.lacksName, hm]
  have hforce : p.inForce line (some ⟨r.declarationLine, r.name⟩) =
      some ⟨r.declarationLine, r.name⟩ := inForce_of_not_isDeclaration hundeclared
  rw [step_of_paired h.line_noError hname hs hforce,
    supersession_of_not_isDeclaration hundeclared, h.complete_eq hsignature]
  rfl

/-- Where no declaration waits, the lines of a record complete the record and nothing else. -/
theorem readFrom_sourceLines (n : Nat) (rest : List String) :
    ∃ time later, readFrom p.sort n none (r.sourceLines ++ rest) =
      { readFrom p.sort later none rest with
        events := (time, .completed r) :: (readFrom p.sort later none rest).events } := by
  by_cases hsame : line = r.declarationLine
  · have hlines : r.sourceLines = [line] := by
      simp [MethodRecord.sourceLines, h.signed, hsame]
    rw [hlines, List.singleton_append, readFrom_cons_ok rest (h.step_of_eq hsame)]
    exact ⟨_, _, rfl⟩
  · have hlines : r.sourceLines = [r.declarationLine, line] := by
      simp [MethodRecord.sourceLines, h.signed, hsame]
    rw [hlines, List.cons_append, List.singleton_append,
      readFrom_cons_ok _ (h.step_declaration hsame), readFrom_cons_ok rest (h.step_signature hsame)]
    exact ⟨_, _, rfl⟩

end MethodRecord.IsFrom

/-! ## Reading the normal form -/

/-- The normal form of records that come from their lines is read without a fault, and all that
happens is that the records are completed. -/
theorem readFrom_normalForm {records : List MethodRecord}
    (hrecords : ∀ r ∈ records, ∃ line, r.IsFrom p line) (n : Nat) :
    (readFrom p.sort n none (normalForm records)).fault = none ∧
      (readFrom p.sort n none (normalForm records)).events.map (·.2) =
        records.map .completed := by
  -- After the lines of each record nothing waits, as before the first one; only the time is another.
  induction records generalizing n with
  | nil => exact ⟨rfl, rfl⟩
  | cons r records ih =>
    obtain ⟨line, hr⟩ := hrecords r List.mem_cons_self
    have hlater : ∀ r ∈ records, ∃ line, r.IsFrom p line :=
      fun r' hr' => hrecords r' (List.mem_cons_of_mem r hr')
    obtain ⟨time, later, hread⟩ := hr.readFrom_sourceLines n (normalForm records)
    obtain ⟨hfault, hevents⟩ := ih hlater later
    rw [normalForm, List.flatMap_cons, ← normalForm, hread]
    refine ⟨hfault, ?_⟩
    rw [List.map_cons, List.map_cons, hevents]

theorem records_of_completed {t : Transcript} {records : List MethodRecord}
    (h : t.events.map (·.2) = records.map .completed) : t.records = records := by
  have hrecords : t.records = (t.events.map (·.2)).filterMap Event.record? := by
    rw [records_eq, List.filterMap_map]
    rfl
  have hsome : (Event.record? ∘ Event.completed) = some := rfl
  rw [hrecords, h, List.filterMap_map, hsome, List.filterMap_some]

/-- **Normal form.**  The report that is written from the records of a report is read without a
fault.  It has the same records, and each event in it is that one of them is complete: no
declaration is superseded or dropped, and the log tells of nothing else.  The first report may have
a fault; then its records are those in front of it. -/
theorem read_normalForm (p : LinePatterns) (L : List String) :
    let records := (read p L).records
    let again := read p (normalForm records)
    again.fault = none ∧ again.records = records ∧
      again.events.map (·.2) = records.map .completed ∧
      again.log = records.map fun r => (Event.completed r).logEntry := by
  intro records again
  have hrecords : ∀ r ∈ records, ∃ line, r.IsFrom p line := fun r hr => isFrom_of_mem hr
  have hagain : again.fault = none ∧ again.events.map (·.2) = records.map .completed :=
    readFrom_normalForm hrecords 0
  obtain ⟨hfault, hevents⟩ := hagain
  refine ⟨hfault, records_of_completed hevents, hevents, ?_⟩
  rw [log_eq, hevents, List.map_map]
  rfl

/-- A report with a declaration that is superseded, one that is dropped, and a line that is a
declaration and a signature at once; its normal form has the same records. -/
example :
    let config : Config :=
      { className := "a.B", namePattern := "(\\w+)\\(.*", signaturePattern := ".*:\\s*(.*)" }
    (Header.collect config ["f()", "g()", "next", "of g: I", "h() : V", "k()"]).toOption =
      (Header.collect config ["g()", "of g: I", "h() : V"]).toOption := by
  decide +kernel

end MethodMacros.Report
