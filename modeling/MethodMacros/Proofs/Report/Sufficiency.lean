import MethodMacros.Proofs.Pattern.Ways
import MethodMacros.Proofs.Report.Refusals
import MethodMacros.Proofs.Report.StandardPatterns

/-!
# Patterns that suffice

A configuration is accepted if its patterns for declarations and signatures have a group.  What the
reading of a report relies on is more: the first group has to take part in the match, whenever the
line is used.  This file says which accepted patterns give what a report is meant to give.

* `Serves`: what a report is promised.
* `serves_iff_sufficesUpTo`: when the promise is kept for a report, in terms of its lines up to the
  first one that fails.
* `serves_iff`: when it is kept for all reports.  In the hard direction a report of one or two lines
  is made from a line without a capture (`firstFailure_of_lacksName`, `firstFailure_pair`).
* `suffices_of_captures`: patterns that suffice by their form, as the standard ones do.

## Lines that are used

An error line is never looked at for a name, and a signature line that no declaration can wait for is
refused before its text is used.  So `LinePatterns.Suffices` asks for a capture only in lines that are
no errors, and for a signature only where a declaration can stand: on the line itself, or on an
earlier line that does not use it up.
-/

namespace MethodMacros.Report

/-! ## What is promised -/

/-- The lines of a method with a given line and text of its signature. -/
def MethodRecord.linesWith (r : MethodRecord) (line signature : String) : List String :=
  ["/* " ++ r.declarationLine ++ " */",
    "#define " ++ r.macroStem ++ "_NAME \"" ++ r.name ++ "\"",
    "/* " ++ line ++ " */",
    "#define " ++ r.macroStem ++ "_SIGNATURE \"" ++ signature ++ "\"",
    ""]

/-- What patterns promise for a report: it is refused for an error line or an orphan signature only,
and each record that is read, whether or not the report is refused later, is complete and printed
with the texts that were captured. -/
structure Serves (config : Config) (p : LinePatterns) (report : List String) : Prop where
  refused : ∀ e, Header.collect config report = .error e →
    ∃ line, e = .report (.errorLine line) ∨ e = .report (.orphanSignature line)
  complete : ∀ r ∈ (read p report).records, r.isComplete = true
  printed : ∀ r ∈ (read p report).records, ∃ signature line, r.signature = some signature ∧
    r.signatureLine = some line ∧ Header.methodBlock r = r.linesWith line signature

section Captures

variable (p : LinePatterns)

/-- The pattern for signatures matches a line without capturing a text. -/
def LinePatterns.lacksSignature (line : String) : Bool :=
  (p.signature.match? line).any fun s => (s.group? 1).isNone

/-- Some declaration can wait when a line is looked at for a signature: one on the line itself, or
one on an earlier line that is no signature. -/
def LinePatterns.CanPair (line : String) : Prop :=
  p.isDeclaration line = true ∨
    ∃ earlier, p.isError earlier = false ∧ p.isDeclaration earlier = true ∧
      p.isSignature earlier = false

/-- The first groups take part wherever they are used. -/
structure LinePatterns.Suffices : Prop where
  name : ∀ line, p.isError line = false → p.lacksName line = false
  signature : ∀ line, p.isError line = false → p.CanPair line → p.lacksSignature line = false

/-- The first groups take part in a report as far as it is read: no signature is missing in front of
the line `f`, and if this line is a declaration and no error, then its name is captured. -/
structure LinePatterns.SufficesUpTo (report : List String) (f : Nat) : Prop where
  name : ∀ line, report[f]? = some line → p.isError line = false → p.lacksName line = false
  signature : ∀ i < f, ¬ LineAt p.lacksSignature report i

end Captures

variable {config : Config} {p : LinePatterns} {report : List String} {f i : Nat}

/-! ## One report -/

/-- What is on the right of a list relation is related to something on the left. -/
theorem exists_of_forall₂ {α β : Type} {R : α → β → Prop} {xs : List α} {ys : List β} {y : β}
    (h : List.Forall₂ R xs ys) (hy : y ∈ ys) : ∃ x ∈ xs, R x y := by
  induction h with
  | nil => cases hy
  | cons hxy _ ih =>
    rcases List.mem_cons.mp hy with rfl | hy
    · exact ⟨_, List.mem_cons_self, hxy⟩
    · obtain ⟨x, hx, hxy⟩ := ih hy
      exact ⟨x, List.mem_cons_of_mem _ hx, hxy⟩

/-- The first failure is one line, or the end. -/
theorem FirstFailure.unique {f' : Nat} (h : FirstFailure p report f) (h' : FirstFailure p report f') :
    f = f' := by
  have hle {g g' : Nat} (hg : FirstFailure p report g) (hg' : FirstFailure p report g') : g ≤ g' := by
    refine Nat.le_of_not_lt fun hlt => ?_
    exact hg.before g' hlt (hg'.fails (Nat.lt_of_lt_of_le hlt hg.le_length))
  exact Nat.le_antisymm (hle h h') (hle h' h)

/-- A record is complete unless the signature is missing on its line. -/
theorem RecordAt.isComplete_iff {r : MethodRecord} (h : RecordAt p report i r) :
    r.isComplete = true ↔ ¬ LineAt p.lacksSignature report i := by
  obtain ⟨j, -, -, line, -, s, -, hline, -, hs, -, -, -, -, hsignature, -⟩ := h
  rw [lineAt_iff hline, MethodRecord.isComplete, hsignature, LinePatterns.lacksSignature, hs]
  simp [Option.isSome_iff_ne_none]

/-- The records of a report are complete if no signature is missing in front of the first
failure. -/
theorem forall_isComplete_iff (hf : FirstFailure p report f) :
    (∀ r ∈ (read p report).records, r.isComplete = true) ↔
      ∀ i < f, ¬ LineAt p.lacksSignature report i := by
  obtain ⟨f', hf', hrecords, -⟩ := read_pairs p report
  obtain rfl := hf.unique hf'
  constructor
  · intro hcomplete i hi hlacks
    obtain ⟨line, hline, hmissing⟩ := hlacks
    obtain ⟨s, hs, -⟩ := (Option.any_eq_true _ _).mp hmissing
    have hsign : LineAt p.isSignature report i :=
      ⟨line, hline, by rw [LinePatterns.isSignature, hs]; rfl⟩
    have hmem : i ∈ (List.range f).filter fun i => LineAt p.isSignature report i :=
      List.mem_filter.mpr ⟨List.mem_range.mpr hi, decide_eq_true hsign⟩
    obtain ⟨r, hr, hrecord⟩ := exists_of_forall₂ (R := flip (RecordAt p report)) hrecords.flip hmem
    exact hrecord.isComplete_iff.mp (hcomplete r hr) ⟨line, hline, hmissing⟩
  · intro hsignature r hr
    obtain ⟨i, hi, hrecord⟩ := exists_of_forall₂ hrecords hr
    have hlt := List.mem_range.mp (List.mem_filter.mp hi).1
    exact hrecord.isComplete_iff.mpr (hsignature i hlt)

/-- The fault of a report is a missing name exactly if the line of the first failure lacks it. -/
theorem fault_ne_iff (hf : FirstFailure p report f) :
    (read p report).fault ≠ some .nameNotCaptured ↔
      ∀ line, report[f]? = some line → p.isError line = false → p.lacksName line = false := by
  obtain ⟨f', hf', -, hfault⟩ := read_pairs p report
  obtain rfl := hf.unique hf'
  constructor
  · intro hne line hline herror
    have hlt := (List.getElem?_eq_some_iff.mp hline).1
    by_contra hname
    cases hcase : (read p report).fault with
    | none =>
      rw [hcase] at hfault
      exact absurd hfault (Nat.ne_of_lt hlt)
    | some fault =>
      rw [hcase] at hfault
      cases hfault with
      | errorLine line' hline' herror' =>
        obtain rfl := Option.some.inj (hline.symm.trans hline')
        exact Bool.false_ne_true (herror.symm.trans herror')
      | nameNotCaptured => exact hne hcase
      | orphan line' hline' _ hname' =>
        obtain rfl := Option.some.inj (hline.symm.trans hline')
        exact hname hname'
  · intro hname hcase
    rw [hcase] at hfault
    cases hfault with
    | nameNotCaptured line hline herror hlacks =>
      exact Bool.false_ne_true ((hname line hline herror).symm.trans hlacks)

/-- A complete record that was read is printed with what was captured. -/
theorem printed_of_isComplete {r : MethodRecord} (hr : r ∈ (read p report).records)
    (hcomplete : r.isComplete = true) : ∃ signature line, r.signature = some signature ∧
      r.signatureLine = some line ∧ Header.methodBlock r = r.linesWith line signature := by
  obtain ⟨f, -, hrecords, -⟩ := read_pairs p report
  obtain ⟨i, -, -, -, -, line, -, -, -, -, -, -, -, -, -, -, -, hline⟩ :=
    exists_of_forall₂ hrecords hr
  obtain ⟨signature, hsignature⟩ := Option.isSome_iff_exists.mp hcomplete
  refine ⟨signature, line, hsignature, hline, ?_⟩
  rw [Header.methodBlock, hsignature, hline]
  rfl

/-- What is promised holds of a report exactly if the first groups take part as far as it is
read. -/
theorem serves_iff_sufficesUpTo (hpatterns : config.patterns = .ok p)
    (hf : FirstFailure p report f) : Serves config p report ↔ p.SufficesUpTo report f := by
  have hcollect := collect_eq hpatterns report
  constructor
  · intro h
    refine ⟨(fault_ne_iff hf).mp fun hfault => ?_, (forall_isComplete_iff hf).mp h.complete⟩
    rw [Transcript.result, hfault] at hcollect
    obtain ⟨line, h | h⟩ := h.refused _ hcollect <;> cases h
  · intro h
    have hcomplete := (forall_isComplete_iff hf).mpr h.signature
    refine ⟨fun e he => ?_, hcomplete, fun r hr => printed_of_isComplete hr (hcomplete r hr)⟩
    have hne := (fault_ne_iff hf).mpr h.name
    rw [hcollect, Transcript.result] at he
    cases hcase : (read p report).fault with
    | none =>
      rw [hcase] at he
      cases he
    | some fault =>
      rw [hcase] at he
      obtain rfl := Except.error.inj he
      cases fault with
      | errorLine line => exact ⟨line, .inl rfl⟩
      | nameNotCaptured => exact absurd hcase hne
      | orphanSignature line => exact ⟨line, .inr rfl⟩

/-! ## All reports -/

theorem isSignature_of_lacksSignature {line : String} (h : p.lacksSignature line = true) :
    p.isSignature line = true := by
  obtain ⟨s, hs, -⟩ := (Option.any_eq_true _ _).mp h
  rw [LinePatterns.isSignature, hs]
  rfl

/-- A line that does not fail is no error, has its name, and is awaited if it is a signature. -/
theorem not_fails_iff {line : String} (hline : report[i]? = some line) :
    ¬ Fails p report i ↔ p.isError line = false ∧ p.lacksName line = false ∧
      (p.isSignature line = true → IsAwaited p report i) := by
  simp only [Fails, lineAt_iff hline, not_or, not_and, not_not, Bool.not_eq_true]

/-- Patterns that suffice for all lines suffice for every report. -/
theorem LinePatterns.Suffices.upTo (h : p.Suffices) (hf : FirstFailure p report f) :
    p.SufficesUpTo report f := by
  refine ⟨fun line _ herror => h.name line herror, fun i hi => ?_⟩
  rintro ⟨line, hline, hlacks⟩
  obtain ⟨herror, -, hawaited⟩ := (not_fails_iff hline).mp (hf.before i hi)
  obtain ⟨j, hj, ⟨declaration, hdeclaration, hdeclares⟩, hunmet⟩ :=
    hawaited (isSignature_of_lacksSignature hlacks)
  have hpair : p.CanPair line := by
    rcases Nat.lt_or_eq_of_le hj with hlt | rfl
    · obtain ⟨herror', -, -⟩ := (not_fails_iff hdeclaration).mp (hf.before j (by omega))
      have hunsigned := hunmet j (Nat.le_refl j) hlt
      rw [lineAt_iff hdeclaration, Bool.not_eq_true] at hunsigned
      exact .inr ⟨declaration, herror', hdeclares, hunsigned⟩
    · obtain rfl := Option.some.inj (hline.symm.trans hdeclaration)
      exact .inl hdeclares
  exact Bool.false_ne_true ((h.signature line herror hpair).symm.trans hlacks)

/-- A line that lacks its name fails as the only line of a report. -/
theorem firstFailure_of_lacksName {line : String} (hname : p.lacksName line = true) :
    FirstFailure p [line] 0 where
  le_length := Nat.zero_le _
  fails _ := .inr (.inl ⟨line, rfl, hname⟩)
  before i hi := absurd hi (Nat.not_lt_zero i)

/-- A declaration can stand alone, with or without a signature on its line. -/
theorem firstFailure_declaration {line : String} (herror : p.isError line = false)
    (hname : p.lacksName line = false) (hdeclares : p.isDeclaration line = true) :
    FirstFailure p [line] 1 where
  le_length := Nat.le_refl _
  fails hlt := absurd hlt (Nat.lt_irrefl _)
  before i hi := by
    obtain rfl : i = 0 := by omega
    refine (not_fails_iff rfl).mpr ⟨herror, hname, fun _ => ?_⟩
    exact ⟨0, Nat.le_refl 0, ⟨line, rfl, hdeclares⟩, fun k _ hk => absurd hk (Nat.not_lt_zero k)⟩

/-- A declaration without a signature can be followed by a line that is none. -/
theorem firstFailure_pair {declaration line : String} (herror : p.isError declaration = false)
    (hname : p.lacksName declaration = false) (hdeclares : p.isDeclaration declaration = true)
    (hunsigned : p.isSignature declaration = false) (herror' : p.isError line = false)
    (hname' : p.lacksName line = false) : FirstFailure p [declaration, line] 2 where
  le_length := Nat.le_refl _
  fails hlt := absurd hlt (Nat.lt_irrefl _)
  before i hi := by
    obtain rfl | rfl : i = 0 ∨ i = 1 := by omega
    · refine (not_fails_iff rfl).mpr ⟨herror, hname, fun hsign => ?_⟩
      exact absurd hsign (Bool.eq_false_iff.mp hunsigned)
    · refine (not_fails_iff rfl).mpr ⟨herror', hname', fun _ => ?_⟩
      refine ⟨0, Nat.zero_le 1, ⟨declaration, rfl, hdeclares⟩, fun k _ hk => ?_⟩
      obtain rfl : k = 0 := by omega
      rw [lineAt_iff (L := [declaration, line]) rfl, Bool.not_eq_true]
      exact hunsigned

/-- **Patterns that suffice.**  With patterns that were accepted, what is promised holds of a report
exactly if the first groups take part as far as it is read; and it holds of all reports exactly if
they take part in every line that can be used. -/
theorem serves_iff (hpatterns : config.patterns = .ok p) :
    (∀ report f, FirstFailure p report f →
      (Serves config p report ↔ p.SufficesUpTo report f)) ∧
    ((∀ report, Serves config p report) ↔ p.Suffices) := by
  refine ⟨fun report f hf => serves_iff_sufficesUpTo hpatterns hf, fun h => ?_, fun h report => ?_⟩
  · have hname : ∀ line, p.isError line = false → p.lacksName line = false := by
      intro line herror
      by_contra hlacks
      have hf := firstFailure_of_lacksName (Bool.not_eq_false _ ▸ hlacks)
      exact hlacks (((serves_iff_sufficesUpTo hpatterns hf).mp (h [line])).name line rfl herror)
    refine ⟨hname, fun line herror hpair => ?_⟩
    rcases hpair with hdeclares | ⟨declaration, herror', hdeclares, hunsigned⟩
    · have hf := firstFailure_declaration herror (hname line herror) hdeclares
      have hsignature := ((serves_iff_sufficesUpTo hpatterns hf).mp (h _)).signature 0 Nat.zero_lt_one
      rwa [lineAt_iff (L := [line]) rfl, Bool.not_eq_true] at hsignature
    · have hf := firstFailure_pair herror' (hname declaration herror') hdeclares hunsigned herror
        (hname line herror)
      have hsignature := ((serves_iff_sufficesUpTo hpatterns hf).mp (h _)).signature 1 Nat.one_lt_two
      rwa [lineAt_iff (L := [declaration, line]) rfl, Bool.not_eq_true] at hsignature
  · obtain ⟨f, hf, -⟩ := read_pairs p report
    exact (serves_iff_sufficesUpTo hpatterns hf).mpr (h.upTo hf)

/-- Both patterns have a group, and it does not take part in what they match: the name is missing,
and the reading stops without a line to tell; or the signature is missing, and the header says
so. -/
theorem not_serves_unusedGroup :
    let unnamed : Config := { className := "a.B", namePattern := "(a)|b" }
    let unsigned : Config := { className := "a.B", signaturePattern := "(x)?s" }
    (∃ p, unnamed.patterns = .ok p ∧ ¬ Serves unnamed p ["b"]) ∧
      Header.collect unnamed ["b"] = .error (.report .nameNotCaptured) ∧
      (∃ p, unsigned.patterns = .ok p ∧ ¬ Serves unsigned p [" f();", "s"]) ∧
      Header.collect unsigned [" f();", "s"] =
        .ok [⟨" f();", "f", "F", none, some "s"⟩] := by
  intro unnamed unsigned
  have hunnamed : Header.collect unnamed ["b"] = .error (.report .nameNotCaptured) := by
    decide +kernel
  have hunsigned : Header.collect unsigned [" f();", "s"] =
      .ok [⟨" f();", "f", "F", none, some "s"⟩] := by
    decide +kernel
  obtain ⟨p, hp⟩ : ∃ p, unnamed.patterns = .ok p := exists_ok_of_toOption (by decide +kernel)
  obtain ⟨q, hq⟩ : ∃ q, unsigned.patterns = .ok q := exists_ok_of_toOption (by decide +kernel)
  refine ⟨⟨p, hp, fun h => ?_⟩, hunnamed, ⟨q, hq, fun h => ?_⟩, hunsigned⟩
  · obtain ⟨line, h | h⟩ := h.refused _ hunnamed <;> cases h
  · have hrecords := (result_eq_ok.mp (mapError_eq_ok.mp (collect_eq hq _ ▸ hunsigned))).2
    cases h.complete _ (hrecords ▸ List.mem_singleton_self _)

/-! ## Patterns that suffice by their form -/

/-- Patterns suffice if their first groups lie on every way through them. -/
theorem suffices_of_captures (hname : p.name.tree.captures 1 = true)
    (hsignature : p.signature.tree.captures 1 = true) : p.Suffices := by
  have hsome {q : Pattern} (hq : q.tree.captures 1 = true) (line : String) :
      (q.match? line).any (fun m => (m.group? 1).isNone) = false := by
    cases hm : q.match? line with
    | none => rfl
    | some m => exact Option.isNone_eq_false_iff.mpr (Pattern.isSome_group?_of_captures hq hm)
  exact ⟨fun line _ => hsome hname line, fun line _ _ => hsome hsignature line⟩

theorem suffices_standardPatterns : standardPatterns.Suffices :=
  suffices_of_captures (by decide +kernel) (by decide +kernel)

/-- The standard patterns give what is promised, for every report. -/
theorem serves_iff_standardPatterns :
    ({ className := "a.B" } : Config).patterns = .ok standardPatterns ∧
      ∀ report, Serves { className := "a.B" } standardPatterns report :=
  ⟨patterns_of_className "a.B",
    (serves_iff (patterns_of_className "a.B")).2.mpr suffices_standardPatterns⟩

end MethodMacros.Report
