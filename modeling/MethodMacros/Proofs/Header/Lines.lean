import MethodMacros.Proofs.Report.StandardRecords
import MethodMacros.Proofs.Text.ReportLines
import MethodMacros.Text.Split

/-!
# The lines of a header

A header is made of lines, so cutting it at its line feeds should give these lines back
(`splitAt_render`).  This needs that no line holds a line feed of its own (`lines_clean`).  A line
is made of fixed words, the guard token of the class and what the records hold; so it is enough that
the class name has no line feed and that the records come from the lines of a report, as
`records_of_generate` says of the records of every header that is generated.
-/

namespace MethodMacros.Header

open Report (MethodRecord textOrNone)
open Text (splitAt splitAt_flatMap)

variable {className : String} {records : List MethodRecord}

/-- A guard token has a line feed only if the class name does. -/
theorem lineFeed_not_mem_guardToken (hclass : '\n' ∉ className.toList) :
    '\n' ∉ (Naming.guardToken className).toList :=
  fun h => hclass (Naming.mem_of_mem_guardToken h (by decide))

theorem opening_clean (hclass : '\n' ∉ className.toList) :
    ∀ line ∈ opening className, '\n' ∉ line.toList := by
  have htoken := lineFeed_not_mem_guardToken hclass
  simp [opening, guardMacro, htoken]

theorem closing_clean (hclass : '\n' ∉ className.toList) : '\n' ∉ (closing className).toList := by
  have htoken := lineFeed_not_mem_guardToken hclass
  simp [closing, guardMacro, htoken]

/-- The block of a method adds nothing to the lines of its record but words without line feeds. -/
theorem methodBlock_clean {r : MethodRecord} (hr : r.IsStandard) :
    ∀ line ∈ methodBlock r, '\n' ∉ line.toList := by
  obtain ⟨line, signature, -, -, hline, hsignature, hclean, -⟩ := hr.signed
  have hdeclaration := hr.declaration_clean
  have hname := hr.lineFeed_not_mem_name
  have hstem := hr.not_mem_macroStem (c := '\n') (by decide) (by decide) (by decide)
  have hcaptured := hr.signature_clean hsignature
  simp [methodBlock, textOrNone, hline, hsignature, hdeclaration, hname, hstem, hclean, hcaptured]

/-- No line of a header holds a line feed. -/
theorem lines_clean (hclass : '\n' ∉ className.toList) (hrecords : ∀ r ∈ records, r.IsStandard) :
    ∀ line ∈ lines className records, '\n' ∉ line.toList := by
  intro line hline
  rw [lines, List.mem_append, List.mem_append, List.mem_singleton] at hline
  rcases hline with (hline | hline) | rfl
  · exact opening_clean hclass line hline
  · obtain ⟨r, hr, hline⟩ := List.mem_flatMap.mp hline
    exact methodBlock_clean (hrecords r hr) line hline
  · exact closing_clean hclass

theorem toList_render (className : String) (records : List MethodRecord) :
    (render className records).toList =
      ((lines className records).map String.toList).flatMap (· ++ ['\n']) := by
  rw [render, String.toList_join, List.flatMap_map, List.flatMap_map]
  simp

/-- Cut at its line feeds, a header is its lines, with nothing after the last line feed. -/
theorem splitAt_render (hclass : '\n' ∉ className.toList)
    (hrecords : ∀ r ∈ records, r.IsStandard) :
    splitAt '\n' (render className records).toList =
      (lines className records).map String.toList ++ [[]] := by
  rw [toList_render]
  refine splitAt_flatMap fun chars hchars => ?_
  obtain ⟨line, hline, rfl⟩ := List.mem_map.mp hchars
  exact lines_clean hclass hrecords line hline

/-- Seven lines stand around the methods, and each method takes five. -/
theorem length_lines (className : String) (records : List MethodRecord) :
    (lines className records).length = 7 + 5 * records.length := by
  have hblocks : (records.flatMap methodBlock).length = 5 * records.length := by
    induction records with
    | nil => rfl
    | cons r records ih =>
      rw [List.flatMap_cons, List.length_append, ih, List.length_cons]
      simp only [methodBlock, List.length_cons, List.length_nil]
      omega
  rw [lines, List.length_append, List.length_append, hblocks]
  simp only [opening, List.length_cons, List.length_nil]
  omega

/-! ## Headers of reports -/

/-- The header of a report under the standard patterns is that of the records of the report, which
are standard. -/
theorem records_of_generate {text header : String}
    (h : generate { className := className } (Text.reportLines text) = .ok header) :
    ∃ records, collect { className := className } (Text.reportLines text) = .ok records ∧
      header = render className records ∧ ∀ r ∈ records, r.IsStandard := by
  obtain ⟨records, hcollect, hheader⟩ := bind_eq_ok h
  refine ⟨records, hcollect, (Except.ok.inj hheader).symm, fun r hr => ?_⟩
  rw [← (Report.collect_eq_ok.mp hcollect).2] at hr
  exact Report.isStandard_of_mem (fun _ hline => (Text.isLine_of_mem_reportLines hline).2) hr

end MethodMacros.Header
