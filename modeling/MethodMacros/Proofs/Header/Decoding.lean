import MethodMacros.Proofs.Header.Definitions

/-!
# Reading a header back

A header tells which report it comes from, as far as records go: there is a decoder that reads the
guard token and the records back from the text of the header (`decode_render`).  So two reports with
one header have the same records (`records_eq_of_header_eq`).

Nothing in a header is escaped, so what delimits the parts of a line must not need escaping.
Comments and definitions are told apart by their lines, a macro ends at the first space, and a value
ends at the end of its line; the quotation marks and the endings of macros are cut off at their
known places.

The blocks of the methods have five lines each.  The decoder takes them off until only the closing
line is left, with the empty rest behind its line feed (`records?_blocks`).
-/

namespace MethodMacros.Header

open Report (MethodRecord generate_of_collect textOrNone)
open Text (splitAt)

/-! ## The decoder -/

/-- What stands between a known beginning and a known end. -/
def between? (start stop line : List Char) : Option (List Char) :=
  (line.dropPrefix? start).bind (·.dropSuffix? stop)

/-- The text of a comment that takes a line. -/
def comment? (line : List Char) : Option String :=
  (between? "/* ".toList " */".toList line).map String.ofList

/-- The definition on a line: what the macro has in front of a known ending, and what the value has
between its quotation marks. -/
def stemAndText? (ending : String) (line : List Char) : Option (String × String) := do
  let (key, value) ← definition? line
  let stem ← key.toList.dropSuffix? ending.toList
  let text ← between? ['"'] ['"'] value.toList
  return (String.ofList stem, String.ofList text)

/-- The record in a block. -/
def record? (declaration name signed signature : List Char) : Option MethodRecord := do
  let declarationLine ← comment? declaration
  let (macroStem, name) ← stemAndText? "_NAME" name
  let signatureLine ← comment? signed
  let (_, signature) ← stemAndText? "_SIGNATURE" signature
  return { declarationLine, name, macroStem, signature := some signature,
           signatureLine := some signatureLine }

/-- The records in the lines after the opening of a header. -/
def records? : List (List Char) → Option (List MethodRecord)
  | [_, []] => some []
  | declaration :: name :: signed :: signature :: _ :: rest => do
      let r ← record? declaration name signed signature
      return r :: (← records? rest)
  | _ => none

/-- The guard token and the records of a header. -/
def decode (header : String) : Option (String × List MethodRecord) :=
  match splitAt '\n' header.toList with
  | _ :: title :: _ :: _ :: _ :: _ :: rest => do
      let token ← between? "/* Header for class ".toList " */".toList title
      return (String.ofList token, ← records? rest)
  | _ => none

/-! ## What it reads -/

theorem between?_append (start text stop : List Char) :
    between? start stop (start ++ (text ++ stop)) = some text := by
  have hstart : (start ++ (text ++ stop)).dropPrefix? start = some (text ++ stop) :=
    List.dropPrefix?_eq_some_iff.mpr ⟨start, rfl, beq_self_eq_true start⟩
  have hstop : (text ++ stop).dropSuffix? stop = some text :=
    List.dropSuffix?_eq_some_iff.mpr ⟨stop, rfl, beq_self_eq_true stop⟩
  rw [between?, hstart, Option.bind_some, hstop]

/-- The text of a comment is read back. -/
theorem comment?_comment (s : String) : comment? ("/* " ++ s ++ " */").toList = some s := by
  rw [comment?, String.toList_append, String.toList_append, List.append_assoc, between?_append,
    Option.map_some, String.ofList_toList]

/-- The stem and the text of a definition are read back, as stems have no spaces. -/
theorem stemAndText?_define {stem ending : String} (h : ' ' ∉ (stem ++ ending).toList) (text : String) :
    stemAndText? ending ("#define " ++ ((stem ++ ending) ++ (" " ++ inQuotes text))).toList =
      some (stem, text) := by
  have hstem : (stem ++ ending).toList.dropSuffix? ending.toList = some stem.toList :=
    List.dropSuffix?_eq_some_iff.mpr
      ⟨ending.toList, String.toList_append, beq_self_eq_true ending.toList⟩
  have htext : between? ['"'] ['"'] (inQuotes text).toList = some text.toList := by
    have hquoted : (inQuotes text).toList = ['"'] ++ (text.toList ++ ['"']) := by
      simp [inQuotes]
    rw [hquoted, between?_append]
  simp only [stemAndText?, definition?_define h, Option.bind_eq_bind, Option.bind_some, hstem, htext,
    String.ofList_toList]
  rfl

/-- The record of a block is read back. -/
theorem record?_block {r : MethodRecord} (hr : r.IsStandard) :
    record? ("/* " ++ r.declarationLine ++ " */").toList
      ("#define " ++ (nameMacro r.macroStem ++ (" " ++ inQuotes r.name))).toList
      ("/* " ++ textOrNone r.signatureLine ++ " */").toList
      ("#define " ++ (signatureMacro r.macroStem ++
        (" " ++ inQuotes (textOrNone r.signature)))).toList = some r := by
  -- An absent signature would be read back as a present one with the word for it.
  obtain ⟨line, signature, -, -, hline, hsignature, -, -⟩ := hr.signed
  have hstem : ' ' ∉ r.macroStem.toList := hr.not_mem_macroStem (by decide) (by decide) (by decide)
  have hname : ' ' ∉ (r.macroStem ++ "_NAME").toList := by simp [hstem]
  have hsigned : ' ' ∉ (r.macroStem ++ "_SIGNATURE").toList := by simp [hstem]
  have hr : r = { r with signature := some signature, signatureLine := some line } := by
    rw [← hsignature, ← hline]
  rw [record?, nameMacro, signatureMacro, comment?_comment, stemAndText?_define hname,
    comment?_comment, stemAndText?_define hsigned, hline, hsignature]
  exact congrArg some hr.symm

/-- The blocks of methods are read one by one, until only the closing line is left. -/
theorem records?_blocks (closing : List Char) {records : List MethodRecord}
    (hrecords : ∀ r ∈ records, r.IsStandard) :
    records? ((records.flatMap methodBlock).map String.toList ++ [closing, []]) = some records := by
  induction records with
  | nil => rfl
  | cons r records ih =>
    have hr := record?_block (hrecords r List.mem_cons_self)
    have hrest := ih fun r' hr' => hrecords r' (List.mem_cons_of_mem r hr')
    rw [List.flatMap_cons, methodBlock_eq, List.map_append, List.append_assoc]
    simp only [List.map_cons, List.map_nil, List.cons_append, List.nil_append, records?, hr, hrest]
    rfl

variable {className : String} {records : List MethodRecord}

/-- A rendered header is read back. -/
theorem decode_render (hclass : '\n' ∉ className.toList) (hrecords : ∀ r ∈ records, r.IsStandard) :
    decode (render className records) = some (Naming.guardToken className, records) := by
  have htitle : between? "/* Header for class ".toList " */".toList
      ("/* Header for class " ++ Naming.guardToken className ++ " */").toList =
        some (Naming.guardToken className).toList := by
    rw [String.toList_append, String.toList_append, List.append_assoc, between?_append]
  have hrest := records?_blocks (closing className).toList hrecords
  have hlines : (lines className records).map String.toList ++ [[]] =
      (opening className).map String.toList ++
        ((records.flatMap methodBlock).map String.toList ++ [(closing className).toList, []]) := by
    simp [lines]
  rw [decode, splitAt_render hclass hrecords, hlines, opening]
  simp only [List.map_cons, List.map_nil, List.cons_append, List.nil_append, htitle, hrest]
  simp

/-! ## Nothing is lost -/

/-- **Headers tell their reports.**  Equal headers come from class names with the same guard token
and from reports with the same records, which a decoder reads back.  Such a header has seven lines
and five for each method, each ended by a line feed: its opening, the blocks of the methods in their
order, and its closing line. -/
theorem records_eq_of_header_eq {className className' text text' header : String}
    (hclass : '\n' ∉ className.toList) (hclass' : '\n' ∉ className'.toList)
    (h : generate { className := className } (Text.reportLines text) = .ok header)
    (h' : generate { className := className' } (Text.reportLines text') = .ok header) :
    Naming.guardToken className = Naming.guardToken className' ∧
      ∃ records, collect { className := className } (Text.reportLines text) = .ok records ∧
        collect { className := className' } (Text.reportLines text') = .ok records ∧
        decode header = some (Naming.guardToken className, records) ∧
        splitAt '\n' header.toList = (opening className ++ records.flatMap methodBlock ++
          [closing className]).map String.toList ++ [[]] ∧
        (opening className ++ records.flatMap methodBlock ++ [closing className]).length =
          7 + 5 * records.length := by
  obtain ⟨records, hcollect, hheader, hrecords⟩ := records_of_generate h
  obtain ⟨records', hcollect', hheader', hrecords'⟩ := records_of_generate h'
  have hdecode : decode header = some (Naming.guardToken className, records) := by
    rw [hheader, decode_render hclass hrecords]
  have hdecode' : decode header = some (Naming.guardToken className', records') := by
    rw [hheader', decode_render hclass' hrecords']
  obtain ⟨htoken, rfl⟩ := Prod.ext_iff.mp (Option.some.inj (hdecode.symm.trans hdecode'))
  refine ⟨htoken, records, hcollect, hcollect', hdecode, ?_, length_lines className records⟩
  rw [hheader]
  exact splitAt_render hclass hrecords

/-- Two classes with one guard token, and reports of one method that end their lines differently. -/
theorem records_eq_of_header_eq_plainText :
    let header := render "a.B" [plainRecord]
    let text' := "void a();\r\n  Signature: ()V"
    '\n' ∉ "a.B".toList ∧ '\n' ∉ "a_B".toList ∧
      generate { className := "a.B" } (Text.reportLines plainText) = .ok header ∧
      generate { className := "a_B" } (Text.reportLines text') = .ok header ∧
      decode header = some ("a_B", [plainRecord]) := by
  intro header text'
  have hcollect : collect { className := "a.B" } (Text.reportLines plainText) = .ok [plainRecord] :=
    eq_ok_of_toOption (by decide +kernel)
  have hcollect' : collect { className := "a_B" } (Text.reportLines text') = .ok [plainRecord] :=
    eq_ok_of_toOption (by decide +kernel)
  have htoken : Naming.guardToken "a.B" = "a_B" := by decide +kernel
  have htoken' : Naming.guardToken "a_B" = "a_B" := by decide +kernel
  have hheader : render "a_B" [plainRecord] = header := by
    simp only [header, render, lines, opening, closing, guardMacro, htoken, htoken']
  have hclass : '\n' ∉ "a.B".toList := by decide
  have hclass' : '\n' ∉ "a_B".toList := by decide
  have h : generate { className := "a.B" } (Text.reportLines plainText) = .ok header :=
    generate_of_collect hcollect
  have h' : generate { className := "a_B" } (Text.reportLines text') = .ok header := by
    rw [generate_of_collect hcollect', hheader]
  obtain ⟨-, records, hrecords, -, hdecode, -⟩ := records_eq_of_header_eq hclass hclass' h h'
  obtain rfl := Except.ok.inj (hrecords.symm.trans hcollect)
  exact ⟨hclass, hclass', h, h', by rw [hdecode, htoken]⟩

end MethodMacros.Header
