import MethodMacros.Proofs.Naming
import MethodMacros.Proofs.Report.Refusals
import MethodMacros.Proofs.Report.StandardPatterns

/-!
# Records under the standard patterns

A record of a report that was read with the standard patterns has everything that a record can have,
and what it has comes from its two lines: its name and its signature are cut out of them, and its
stem is made of its name.  `MethodRecord.IsStandard` says so, and `isStandard_of_mem` proves it.
Neither line holds a line feed, if no line of the report does.

Characters that are in neither line are in no part of the record.  That is what the lines of a
header need: `lineFeed_not_mem_name`, `not_mem_macroStem` and `signature_clean`.
-/

namespace MethodMacros.Report

open Text (isBlank)

/-- A record as the standard patterns give it. -/
structure MethodRecord.IsStandard (r : MethodRecord) : Prop where
  declaration_clean : '\n' ∉ r.declarationLine.toList
  declaration_cut : ∃ before gap after,
    DeclarationCut r.declarationLine.toList before gap r.name.toList after
  stem : r.macroStem = Naming.macroStem r.name
  signed : ∃ line signature start gap, r.signatureLine = some line ∧
    r.signature = some signature ∧ '\n' ∉ line.toList ∧
    SignatureCut line.toList start gap signature.toList

variable {L : List String} {r : MethodRecord}

/-- What stands at a place of a report is one of its lines. -/
theorem clean_of_getElem? {i : Nat} {line : String} (hclean : ∀ line ∈ L, '\n' ∉ line.toList)
    (h : L[i]? = some line) : '\n' ∉ line.toList :=
  hclean line (List.mem_of_getElem? h)

theorem RecordAt.isStandard {i : Nat} (h : RecordAt standardPatterns L i r)
    (hclean : ∀ line ∈ L, '\n' ∉ line.toList) : r.IsStandard := by
  obtain ⟨j, -, declaration, line, m, s, hj, hi, hm, hs, -, hname, rfl, hstem, hsignature,
    hline⟩ := h
  have hdeclaration := clean_of_getElem? hclean hj
  have hsigned := clean_of_getElem? hclean hi
  obtain ⟨before, gap, name, after, hcut, hgroup, -⟩ := name_of_match hdeclaration hm
  obtain ⟨start, blanks, signature, hcut', hgroup', -⟩ := signature_of_match hsigned hs
  obtain hname : r.name = String.ofList name := Option.some.inj (hname.symm.trans hgroup)
  refine ⟨hdeclaration, ⟨before, gap, after, ?_⟩, hstem, line, String.ofList signature, start,
    blanks, hline, hsignature.trans hgroup', hsigned, ?_⟩
  · rwa [hname, String.toList_ofList]
  · rwa [String.toList_ofList]

/-- The records that are read are standard. -/
theorem isStandard_of_mem (hclean : ∀ line ∈ L, '\n' ∉ line.toList)
    (hr : r ∈ (read standardPatterns L).records) : r.IsStandard := by
  obtain ⟨f, hruns⟩ := runsTo_read standardPatterns L
  obtain ⟨n, hn, rfl⟩ := List.getElem_of_mem hr
  have hlength := hruns.records.length_eq
  exact (hruns.records.get (hlength ▸ hn) hn).isStandard hclean

/-- With the standard patterns, records are given exactly by reports that can be read. -/
theorem collect_eq_ok {className : String} {records : List MethodRecord} :
    Header.collect { className := className } L = .ok records ↔
      (read standardPatterns L).fault = none ∧ (read standardPatterns L).records = records := by
  rw [collect_eq (patterns_of_className className), mapError_eq_ok, result_eq_ok]

namespace MethodRecord.IsStandard

/-- A name has no blank. -/
theorem isBlank_name (hr : r.IsStandard) : ∀ c ∈ r.name.toList, isBlank c = false := by
  obtain ⟨_, _, _, hcut⟩ := hr.declaration_cut
  exact fun c hc => (hcut.name_chars c hc).2.1

/-- What is blank and no upper-case form of anything else is not in a stem. -/
theorem not_mem_macroStem (hr : r.IsStandard) {c : Char} (hblank : isBlank c = true)
    (hpos : 0 < c.toNat) (hle : c.toNat ≤ 64) : c ∉ r.macroStem.toList := by
  intro hc
  rw [hr.stem] at hc
  have hname := hr.isBlank_name c (Naming.mem_of_mem_macroStem hc hpos hle)
  rw [hblank] at hname
  cases hname

theorem lineFeed_not_mem_name (hr : r.IsStandard) : '\n' ∉ r.name.toList := fun hc =>
  absurd (hr.isBlank_name '\n' hc) (by decide)

theorem signature_clean (hr : r.IsStandard) {signature : String}
    (h : r.signature = some signature) : '\n' ∉ signature.toList := by
  obtain ⟨line, signature', start, gap, -, hsignature, hclean, hcut⟩ := hr.signed
  obtain rfl := Option.some.inj (hsignature.symm.trans h)
  intro hc
  exact hclean (by rw [hcut.line_eq]; simp [hc])

end MethodRecord.IsStandard

end MethodMacros.Report
