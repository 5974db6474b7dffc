import MethodMacros.Proofs.Header.Lines
import Mathlib.Data.List.Basic

/-!
# What a header defines

A header is read for its definitions, from its first line to its last.  A macro may be defined more
than once, and then its last definition counts.  Names become stems by a conversion that can give
one stem to several names, and methods with one name always share their stem; so a later method can
take the macros of an earlier one over.

Here this is made exact.  The macros of a stem have the values of the last method with that stem.
Every method keeps its macros just if methods that share a stem agree in name and signature, which
is also to say that no macro is defined with two values.

* `definitions`, `finalValue?`: the definitions of a text, and what counts of them.
* `Keeps`, `StemsAgree`, `Consistent`: the three things that are said to be equivalent.
* `exists_definitions_render`: the definitions of a header are those of its guard and of the blocks
  of its records, in this order.
* `stem_eq_of_mem_blockDefinitions`: blocks with different stems define different macros.
* `IsLast.keeps`, `forall_keeps_iff`, `consistent_iff`: from the order of definitions to the three.
* `keeps_iff_consistent`: the same for the header of a report.
-/

namespace MethodMacros.Header

open Report (MethodRecord generate_of_collect textOrNone)
open Text (splitAt)

/-! ## Definitions -/

/-- A line that defines a macro: the word for it, the macro up to the first space, and the value. -/
def definition? (line : List Char) : Option (String × String) :=
  (line.dropPrefix? "#define ".toList).map fun rest =>
    (String.ofList (rest.takeWhile (· != ' ')), String.ofList ((rest.dropWhile (· != ' ')).drop 1))

/-- The definitions of a header, in the order of its lines. -/
def definitions (header : String) : List (String × String) :=
  (splitAt '\n' header.toList).filterMap definition?

/-- What a macro stands for when the whole header has been read: its last definition counts. -/
def finalValue? (header key : String) : Option String :=
  (definitions header).reverse.lookup key

/-- A text between quotation marks. -/
def inQuotes (s : String) : String := "\"" ++ s ++ "\""

/-- The macro for the name of a method. -/
def nameMacro (stem : String) : String := stem ++ "_NAME"

/-- The macro for the signature of a method. -/
def signatureMacro (stem : String) : String := stem ++ "_SIGNATURE"

/-- The macros of a record stand for its name and its signature. -/
structure Keeps (header : String) (r : MethodRecord) : Prop where
  name : finalValue? header (nameMacro r.macroStem) = some (inQuotes r.name)
  signature : ∃ signature, r.signature = some signature ∧
    finalValue? header (signatureMacro r.macroStem) = some (inQuotes signature)

/-- No macro is defined with two values. -/
def Consistent (header : String) : Prop :=
  ∀ d ∈ definitions header, ∀ d' ∈ definitions header, d.1 = d'.1 → d.2 = d'.2

/-- Records that share a stem agree in name and signature. -/
def StemsAgree (records : List MethodRecord) : Prop :=
  ∀ r ∈ records, ∀ r' ∈ records, r.macroStem = r'.macroStem →
    r.name = r'.name ∧ r.signature = r'.signature

/-- A record is the last with its stem. -/
def IsLast (records : List MethodRecord) (r : MethodRecord) : Prop :=
  ∃ before after, records = before ++ r :: after ∧ ∀ r' ∈ after, r'.macroStem ≠ r.macroStem

/-! ## The definitions of a rendered header -/

/-- The definitions in the block of a method. -/
def blockDefinitions (r : MethodRecord) : List (String × String) :=
  [(nameMacro r.macroStem, inQuotes r.name),
    (signatureMacro r.macroStem, inQuotes (textOrNone r.signature))]

/-- A line that begins as definitions do is one. -/
theorem definition?_append (rest : List Char) :
    definition? ("#define ".toList ++ rest) = some
      (String.ofList (rest.takeWhile (· != ' ')),
        String.ofList ((rest.dropWhile (· != ' ')).drop 1)) := by
  have hdrop : ("#define ".toList ++ rest).dropPrefix? "#define ".toList = some rest :=
    List.dropPrefix?_eq_some_iff.mpr ⟨_, rfl, beq_self_eq_true _⟩
  rw [definition?, hdrop]
  rfl

/-- A macro without spaces and its value are read back from the line that defines it. -/
theorem definition?_define {key : String} (h : ' ' ∉ key.toList) (value : String) :
    definition? ("#define " ++ (key ++ (" " ++ value))).toList = some (key, value) := by
  have hkey : ∀ c ∈ key.toList, (c != ' ') = true := by
    intro c hc
    have hne : c ≠ ' ' := fun he => h (he ▸ hc)
    simpa using hne
  rw [String.toList_append, definition?_append, String.toList_append,
    List.takeWhile_append_of_pos hkey, List.dropWhile_append_of_pos hkey]
  simp

/-- Other lines define nothing. -/
theorem definition?_eq_none {line : List Char} (h : ¬ "#define ".toList <+: line) :
    definition? line = none := by
  rw [definition?, Option.map_eq_none_iff, Option.eq_none_iff_forall_ne_some]
  intro rest hrest
  obtain ⟨start, rfl, hstart⟩ := List.dropPrefix?_eq_some_iff.mp hrest
  rw [eq_of_beq hstart] at h
  exact h (List.prefix_append _ _)

variable {className header : String} {records : List MethodRecord}

/-- The macro of the guard has small letters, whatever the class name is. -/
theorem exists_definition?_guard (className : String) :
    ∃ key value, 'a' ∈ key.toList ∧
      definition? ("#define " ++ guardMacro className).toList = some (key, value) := by
  refine ⟨_, _, ?_, by rw [String.toList_append, definition?_append]⟩
  have hstart : ∀ c ∈ "_Callbacks_".toList, (c != ' ') = true :=
    List.all_eq_true.mp (by decide)
  rw [String.toList_ofList, guardMacro, String.toList_append,
    List.takeWhile_append_of_pos hstart]
  exact List.mem_append_left _ (by decide)

/-- Before the methods only the guard is defined. -/
theorem exists_filterMap_opening (className : String) :
    ∃ key value, 'a' ∈ key.toList ∧
      ((opening className).map String.toList).filterMap definition? = [(key, value)] := by
  obtain ⟨key, value, hkey, hguard⟩ := exists_definition?_guard className
  have htitle : definition? ("/* Header for class " ++ Naming.guardToken className ++ " */").toList =
      none := definition?_eq_none (by simp)
  have htest : definition? ("#ifndef " ++ guardMacro className).toList = none :=
    definition?_eq_none (by simp)
  refine ⟨key, value, hkey, ?_⟩
  rw [opening, List.map_cons, List.filterMap_cons_none (definition?_eq_none (by simp)),
    List.map_cons, List.filterMap_cons_none htitle, List.map_cons,
    List.filterMap_cons_none (definition?_eq_none (by simp)), List.map_cons,
    List.filterMap_cons_none htest, List.map_cons, List.filterMap_cons_some hguard, List.map_cons,
    List.filterMap_cons_none (definition?_eq_none (by simp)), List.map_nil, List.filterMap_nil]

/-- The lines of a method, with its macros and their values. -/
theorem methodBlock_eq (r : MethodRecord) : methodBlock r =
    ["/* " ++ r.declarationLine ++ " */",
      "#define " ++ (nameMacro r.macroStem ++ (" " ++ inQuotes r.name)),
      "/* " ++ textOrNone r.signatureLine ++ " */",
      "#define " ++ (signatureMacro r.macroStem ++ (" " ++ inQuotes (textOrNone r.signature))),
      ""] := by
  simp only [methodBlock, nameMacro, signatureMacro, inQuotes, List.cons.injEq, true_and, and_true]
  constructor <;> exact String.toList_inj.mp (by simp)

/-- The block of a method defines its two macros. -/
theorem filterMap_methodBlock {r : MethodRecord} (hr : r.IsStandard) :
    ((methodBlock r).map String.toList).filterMap definition? = blockDefinitions r := by
  have hstem : ' ' ∉ r.macroStem.toList := hr.not_mem_macroStem (by decide) (by decide) (by decide)
  have hname : ' ' ∉ (nameMacro r.macroStem).toList := by simp [nameMacro, hstem]
  have hsignature : ' ' ∉ (signatureMacro r.macroStem).toList := by simp [signatureMacro, hstem]
  have hcomment : ∀ s, definition? ("/* " ++ s ++ " */").toList = none :=
    fun s => definition?_eq_none (by simp)
  rw [methodBlock_eq, List.map_cons, List.filterMap_cons_none (hcomment _), List.map_cons,
    List.filterMap_cons_some (definition?_define hname _), List.map_cons, List.filterMap_cons_none (hcomment _),
    List.map_cons, List.filterMap_cons_some (definition?_define hsignature _), List.map_cons,
    List.filterMap_cons_none (definition?_eq_none (by simp))]
  rfl

theorem definition?_closing (className : String) :
    definition? (closing className).toList = none :=
  definition?_eq_none (by simp [closing])

/-- The definitions of a header are that of its guard and then those of its methods. -/
theorem exists_definitions_render (hclass : '\n' ∉ className.toList)
    (hrecords : ∀ r ∈ records, r.IsStandard) :
    ∃ key value, 'a' ∈ key.toList ∧
      definitions (render className records) = (key, value) :: records.flatMap blockDefinitions := by
  obtain ⟨key, value, hkey, hopening⟩ := exists_filterMap_opening className
  have hblocks : ((records.flatMap methodBlock).map String.toList).filterMap definition? =
      records.flatMap blockDefinitions := by
    rw [List.map_flatMap, List.filterMap_flatMap]
    exact List.flatMap_congr fun r hr => filterMap_methodBlock (hrecords r hr)
  refine ⟨key, value, hkey, ?_⟩
  rw [definitions, splitAt_render hclass hrecords, lines, List.map_append, List.map_append,
    List.filterMap_append, List.filterMap_append, List.filterMap_append, hopening, hblocks,
    List.map_singleton, List.filterMap_cons_none (definition?_closing className),
    List.filterMap_cons_none (definition?_eq_none (by simp))]
  simp

/-! ## Macros and stems -/

theorem nameMacro_inj {stem stem' : String} : nameMacro stem = nameMacro stem' ↔ stem = stem' := by
  rw [← String.toList_inj, nameMacro, nameMacro, String.toList_append, String.toList_append,
    List.append_cancel_right_eq, String.toList_inj]

theorem signatureMacro_inj {stem stem' : String} :
    signatureMacro stem = signatureMacro stem' ↔ stem = stem' := by
  rw [← String.toList_inj, signatureMacro, signatureMacro, String.toList_append,
    String.toList_append, List.append_cancel_right_eq, String.toList_inj]

/-- The macro for a name is none for a signature, as their second last letters differ. -/
theorem nameMacro_ne_signatureMacro (stem stem' : String) :
    nameMacro stem ≠ signatureMacro stem' := by
  intro h
  have hreverse := congrArg (fun s => s.toList.reverse) h
  simp [nameMacro, signatureMacro] at hreverse

theorem inQuotes_inj {s s' : String} : inQuotes s = inQuotes s' ↔ s = s' := by
  rw [← String.toList_inj, inQuotes, inQuotes]
  simp [String.toList_inj]

/-- The macros of a method have no small letters. -/
theorem not_mem_of_mem_blockDefinitions {r : MethodRecord} (hr : r.IsStandard)
    {d : String × String} (hd : d ∈ blockDefinitions r) : 'a' ∉ d.1.toList := by
  have hstem : 'a' ∉ r.macroStem.toList := by
    rw [hr.stem]
    exact Naming.not_mem_macroStem_of_small (by decide) (by decide)
  simp only [blockDefinitions, List.mem_cons, List.not_mem_nil, or_false] at hd
  rcases hd with rfl | rfl
  · simp [nameMacro, hstem]
  · simp [signatureMacro, hstem]

/-- Methods with different stems have different macros. -/
theorem stem_eq_of_mem_blockDefinitions {r r' : MethodRecord} {d d' : String × String}
    (hd : d ∈ blockDefinitions r) (hd' : d' ∈ blockDefinitions r') (h : d.1 = d'.1) :
    r.macroStem = r'.macroStem ∧
      (r.name = r'.name ∧ r.signature = r'.signature → d.2 = d'.2) := by
  simp only [blockDefinitions, List.mem_cons, List.not_mem_nil, or_false] at hd hd'
  rcases hd with rfl | rfl <;> rcases hd' with rfl | rfl
  · exact ⟨nameMacro_inj.mp h, fun hsame => by rw [hsame.1]⟩
  · exact absurd h (nameMacro_ne_signatureMacro _ _)
  · exact absurd h.symm (nameMacro_ne_signatureMacro _ _)
  · exact ⟨signatureMacro_inj.mp h, fun hsame => by rw [hsame.2]⟩

/-! ## Last definitions -/

/-- A definition that no later one replaces gives the final value. -/
theorem finalValue?_eq_some {key value : String} {before after : List (String × String)}
    (h : definitions header = before ++ (key, value) :: after) (hafter : ∀ d ∈ after, d.1 ≠ key) :
    finalValue? header key = some value := by
  rw [finalValue?, List.lookup_eq_some_iff]
  refine ⟨after.reverse, before.reverse, by rw [h]; simp, fun d hd => ?_⟩
  have hne : key ≠ d.1 := (hafter d (List.mem_reverse.mp hd)).symm
  simpa using hne

/-- If some record has a stem, one of them is the last. -/
theorem exists_isLast {stem : String} (h : ∃ r ∈ records, r.macroStem = stem) :
    ∃ last, IsLast records last ∧ last.macroStem = stem := by
  induction records with
  | nil => simp at h
  | cons first rest ih =>
    by_cases hrest : ∃ r ∈ rest, r.macroStem = stem
    · obtain ⟨last, ⟨before, after, hsplit, hafter⟩, hstem⟩ := ih hrest
      exact ⟨last, ⟨first :: before, after, by rw [hsplit, List.cons_append], hafter⟩, hstem⟩
    · have hfirst : first.macroStem = stem := by
        obtain ⟨r, hr, hstem⟩ := h
        rcases List.mem_cons.mp hr with rfl | hr
        · exact hstem
        · exact absurd ⟨r, hr, hstem⟩ hrest
      exact ⟨first, ⟨[], rest, rfl, fun r hr he => hrest ⟨r, hr, he.trans hfirst⟩⟩, hfirst⟩

theorem IsLast.mem {r : MethodRecord} (h : IsLast records r) : r ∈ records := by
  obtain ⟨before, after, rfl, -⟩ := h
  exact List.mem_append_right _ List.mem_cons_self

section Values

variable {guard : String × String}

/-- The last record with a stem keeps its macros. -/
theorem IsLast.keeps {r : MethodRecord} (h : IsLast records r)
    (hdefinitions : definitions header = guard :: records.flatMap blockDefinitions)
    (hr : r.IsStandard) : Keeps header r := by
  obtain ⟨before, after, rfl, hafter⟩ := h
  obtain ⟨-, signature, -, -, -, hsignature, -, -⟩ := hr.signed
  -- Neither macro is defined again, because later records have other stems.
  have hlater : ∀ d ∈ after.flatMap blockDefinitions, ∀ d' ∈ blockDefinitions r, d.1 ≠ d'.1 := by
    intro d hd d' hd' he
    obtain ⟨r', hr', hd⟩ := List.mem_flatMap.mp hd
    exact hafter r' hr' (stem_eq_of_mem_blockDefinitions hd hd' he).1
  have hname : definitions header = (guard :: before.flatMap blockDefinitions) ++
      (nameMacro r.macroStem, inQuotes r.name) ::
        (signatureMacro r.macroStem, inQuotes signature) :: after.flatMap blockDefinitions := by
    rw [hdefinitions, List.flatMap_append, List.flatMap_cons, blockDefinitions, hsignature]
    rfl
  have hsigned : definitions header =
      (guard :: before.flatMap blockDefinitions ++ [(nameMacro r.macroStem, inQuotes r.name)]) ++
        (signatureMacro r.macroStem, inQuotes signature) :: after.flatMap blockDefinitions := by
    rw [hname, List.append_assoc, List.singleton_append]
  refine ⟨finalValue?_eq_some hname (List.forall_mem_cons.mpr ⟨?_, ?_⟩), signature, hsignature,
    finalValue?_eq_some hsigned ?_⟩
  · exact (nameMacro_ne_signatureMacro _ _).symm
  · exact fun d hd => hlater d hd (nameMacro r.macroStem, inQuotes r.name) (by simp [blockDefinitions])
  · exact fun d hd => hlater d hd (signatureMacro r.macroStem, inQuotes (textOrNone r.signature))
      (by simp [blockDefinitions])

/-- All records keep their macros just if records that share a stem agree. -/
theorem forall_keeps_iff (hlast : ∀ r, IsLast records r → Keeps header r) :
    (∀ r ∈ records, Keeps header r) ↔ StemsAgree records := by
  constructor
  · intro hkeeps r hr r' hr' hstem
    obtain ⟨hname, signature, hsignature, hvalue⟩ := hkeeps r hr
    obtain ⟨hname', signature', hsignature', hvalue'⟩ := hkeeps r' hr'
    rw [hstem] at hname hvalue
    have hsame := inQuotes_inj.mp (Option.some.inj (hname.symm.trans hname'))
    have hsame' := inQuotes_inj.mp (Option.some.inj (hvalue.symm.trans hvalue'))
    exact ⟨hsame, by rw [hsignature, hsignature', hsame']⟩
  · intro hagree r hr
    obtain ⟨last, hlast', hstem⟩ := exists_isLast ⟨r, hr, rfl⟩
    obtain ⟨hname, signature, hsignature, hvalue⟩ := hlast last hlast'
    obtain ⟨hsame, hsame'⟩ := hagree last hlast'.mem r hr hstem
    exact ⟨by rw [← hstem, hname, hsame], signature, by rw [← hsame', hsignature],
      by rw [← hstem, hvalue]⟩

/-- No macro has two values just if records that share a stem agree. -/
theorem consistent_iff
    (hdefinitions : definitions header = guard :: records.flatMap blockDefinitions)
    (hguard : 'a' ∈ guard.1.toList) (hrecords : ∀ r ∈ records, r.IsStandard) :
    Consistent header ↔ StemsAgree records := by
  have hmem : ∀ d, d ∈ definitions header ↔ d = guard ∨ ∃ r ∈ records, d ∈ blockDefinitions r := by
    intro d
    rw [hdefinitions, List.mem_cons, List.mem_flatMap]
  constructor
  · intro hconsistent r hr r' hr' hstem
    have hblock : ∀ r ∈ records, ∀ d ∈ blockDefinitions r, d ∈ definitions header :=
      fun r hr d hd => (hmem d).mpr (.inr ⟨r, hr, hd⟩)
    have hname := hconsistent (nameMacro r.macroStem, inQuotes r.name)
      (hblock r hr _ (by simp [blockDefinitions])) (nameMacro r'.macroStem, inQuotes r'.name)
      (hblock r' hr' _ (by simp [blockDefinitions])) (by rw [hstem])
    obtain ⟨-, signature, -, -, -, hsignature, -, -⟩ := (hrecords r hr).signed
    obtain ⟨-, signature', -, -, -, hsignature', -, -⟩ := (hrecords r' hr').signed
    have hsigned := hconsistent (signatureMacro r.macroStem, inQuotes signature)
      (hblock r hr _ (by simp [blockDefinitions, textOrNone, hsignature]))
      (signatureMacro r'.macroStem, inQuotes signature')
      (hblock r' hr' _ (by simp [blockDefinitions, textOrNone, hsignature'])) (by rw [hstem])
    exact ⟨inQuotes_inj.mp hname, by rw [hsignature, hsignature', inQuotes_inj.mp hsigned]⟩
  · intro hagree d hd d' hd' hkey
    -- The guard is defined once, since it has small letters and the macros of methods have none.
    have hguarded : ∀ r ∈ records, ∀ d ∈ blockDefinitions r, d.1 ≠ guard.1 :=
      fun r hr d hd he => not_mem_of_mem_blockDefinitions (hrecords r hr) hd (he ▸ hguard)
    rcases (hmem d).mp hd with rfl | ⟨r, hr, hd⟩ <;> rcases (hmem d').mp hd' with rfl | ⟨r', hr', hd'⟩
    · rfl
    · exact absurd hkey.symm (hguarded r' hr' d' hd')
    · exact absurd hkey (hguarded r hr d hd)
    · obtain ⟨hstem, hsame⟩ := stem_eq_of_mem_blockDefinitions hd hd' hkey
      exact hsame (hagree r hr r' hr' hstem)

end Values

/-- What becomes of the macros in a rendered header. -/
theorem keeps_render (hclass : '\n' ∉ className.toList) (hrecords : ∀ r ∈ records, r.IsStandard) :
    (∀ r, IsLast records r → Keeps (render className records) r) ∧
      ((∀ r ∈ records, Keeps (render className records) r) ↔ StemsAgree records) ∧
      (Consistent (render className records) ↔ StemsAgree records) := by
  obtain ⟨key, value, hkey, hdefinitions⟩ := exists_definitions_render hclass hrecords
  have hlast : ∀ r, IsLast records r → Keeps (render className records) r :=
    fun r hr => hr.keeps hdefinitions (hrecords r hr.mem)
  exact ⟨hlast, forall_keeps_iff hlast, consistent_iff hdefinitions hkey hrecords⟩

/-! ## Headers of reports -/

/-- **Macros of methods.**  In the header of a report the macros of a stem have the values of the
last method with that stem.  So all methods keep their macros just if methods that share a stem
agree in name and signature, and just if no macro is defined with two values. -/
theorem keeps_iff_consistent {className text header : String} (hclass : '\n' ∉ className.toList)
    (h : generate { className := className } (Text.reportLines text) = .ok header) :
    ∃ records, collect { className := className } (Text.reportLines text) = .ok records ∧
      (∀ r ∈ records, ∃ last, IsLast records last ∧ last.macroStem = r.macroStem ∧
        Keeps header last) ∧
      ((∀ r ∈ records, Keeps header r) ↔ Consistent header) ∧
      (Consistent header ↔ StemsAgree records) := by
  obtain ⟨records, hcollect, rfl, hrecords⟩ := records_of_generate h
  obtain ⟨hlast, hkeeps, hconsistent⟩ := keeps_render hclass hrecords
  refine ⟨records, hcollect, fun r hr => ?_, hkeeps.trans hconsistent.symm, hconsistent⟩
  obtain ⟨last, hlast', hstem⟩ := exists_isLast ⟨r, hr, rfl⟩
  exact ⟨last, hlast', hstem, hlast last hlast'⟩

/-- The record of a method without arguments. -/
def plainRecord : MethodRecord where
  declarationLine := "void a();"
  name := "a"
  macroStem := "A"
  signature := some "()V"
  signatureLine := some "  Signature: ()V"

/-- The record of a method of the same name, with an argument. -/
def overloadedRecord : MethodRecord where
  declarationLine := "void a(int);"
  name := "a"
  macroStem := "A"
  signature := some "(I)V"
  signatureLine := some "  Signature: (I)V"

/-- The report of the method without arguments. -/
def plainText : String := "void a();\n  Signature: ()V\n"

/-- The report of both methods. -/
def overloadedText : String := "void a(int);\n  Signature: (I)V\n" ++ plainText

theorem collect_overloadedText :
    collect { className := "B" } (Text.reportLines overloadedText) =
      .ok [overloadedRecord, plainRecord] :=
  eq_ok_of_toOption (by decide +kernel)

/-- The header of a class that has two methods of one name. -/
theorem keeps_iff_consistent_overloadedText :
    let header := render "B" [overloadedRecord, plainRecord]
    '\n' ∉ "B".toList ∧
      generate { className := "B" } (Text.reportLines overloadedText) = .ok header ∧
      (∃ last, IsLast [overloadedRecord, plainRecord] last ∧
        last.macroStem = overloadedRecord.macroStem ∧ Keeps header last) ∧
      (Consistent header ↔ StemsAgree [overloadedRecord, plainRecord]) := by
  intro header
  have hgenerate : generate { className := "B" } (Text.reportLines overloadedText) = .ok header :=
    generate_of_collect collect_overloadedText
  have hclass : '\n' ∉ "B".toList := by decide
  obtain ⟨records, hcollect, hlast, -, hagree⟩ := keeps_iff_consistent hclass hgenerate
  obtain rfl := Except.ok.inj (hcollect.symm.trans collect_overloadedText)
  exact ⟨hclass, hgenerate, hlast overloadedRecord List.mem_cons_self, hagree⟩

/-- The report of a class gives a header, but some method does not keep its macros, and some macro
is defined with two values. -/
def LosesMacros (className text : String) : Prop :=
  ∃ records header, collect { className := className } (Text.reportLines text) = .ok records ∧
    generate { className := className } (Text.reportLines text) = .ok header ∧
    ¬ (∀ r ∈ records, Keeps header r) ∧ ¬ Consistent header

/-- Methods that share a stem and differ lose macros to each other. -/
theorem losesMacros_of_not_stemsAgree {className text : String} {records : List MethodRecord}
    (hclass : '\n' ∉ className.toList)
    (hcollect : collect { className := className } (Text.reportLines text) = .ok records)
    (h : ¬ StemsAgree records) : LosesMacros className text := by
  have hgenerate := generate_of_collect hcollect
  obtain ⟨records', hcollect', -, hrecords⟩ := records_of_generate hgenerate
  obtain rfl := Except.ok.inj (hcollect.symm.trans hcollect')
  obtain ⟨-, hkeeps, hconsistent⟩ := keeps_render hclass hrecords
  exact ⟨records, _, hcollect, hgenerate, fun hall => h (hkeeps.mp hall),
    fun hall => h (hconsistent.mp hall)⟩

/-- A method loses its signature to a later one of the same name; and a class name with a line feed
can bring in definitions of its own, of which the last stands behind all methods. -/
theorem losesMacros_overloadedText :
    LosesMacros "B" overloadedText ∧ LosesMacros "B\n#define A_NAME \"b\"" plainText := by
  have hdiffer : ¬ StemsAgree [overloadedRecord, plainRecord] := by
    intro hagree
    have hsame := hagree overloadedRecord (by simp) plainRecord (by simp) rfl
    exact absurd hsame.2 (by decide)
  have hcollect : collect { className := "B\n#define A_NAME \"b\"" } (Text.reportLines plainText) =
      .ok [plainRecord] := eq_ok_of_toOption (by decide +kernel)
  have hplain : definitions (render "B\n#define A_NAME \"b\"" [plainRecord]) =
      [("A_NAME", "\"b\" */"), ("A_NAME", "\"b\""), ("_Callbacks_B", ""), ("A_NAME", "\"b\""),
        ("A_NAME", "\"a\""), ("A_SIGNATURE", "\"()V\""), ("A_NAME", "\"b\"")] := by
    rw [definitions, toList_render]
    decide +kernel
  refine ⟨losesMacros_of_not_stemsAgree (by decide) collect_overloadedText hdiffer,
    _, _, hcollect, generate_of_collect hcollect, fun hkeeps => ?_, fun hconsistent => ?_⟩
  · have hvalue := (hkeeps plainRecord List.mem_cons_self).name
    rw [finalValue?, hplain] at hvalue
    exact absurd hvalue (by decide +kernel)
  · rw [Consistent, hplain] at hconsistent
    exact absurd hconsistent (by decide +kernel)

end MethodMacros.Header
