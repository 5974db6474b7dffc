import MethodMacros.Proofs.Header.Preprocessing

/-!
# The directives of a header

What a header means to a C compiler is what a preprocessor makes of it.  The texts in a header are
not escaped: the lines of the report stand in comments as they are, and names and signatures stand
in strings.  So the header says what its records say only if no line of the report closes its
comment and no signature ends its string, and if the macros are names.  `IsPrintable` is this
condition.  Given it, each line of the header can be read alone, and the header has the directives
of its guard and two for each record (`directives?_render`).

* `readsAs_comment`: a comment that nothing in it closes is blank.
* `readsAs_code`: a line of characters that begin no comment and no literal is read as it stands;
  `readsAs_unlessDefined`, `readsAs_define` and `readsAs_endif` are the lines of the guard.
* `readsAs_defineString`: a definition whose value is a string.
* `readsAs_methodBlock`, `readsAs_opening`, `readsAs_blocks`: the parts of a header.

Macros of different stems do not meet, since an ending is told by its last letters
(`macroStem_eq_of_mem`); and the guard is no macro of a record, since stems have no small letters
(`small_not_mem_of_mem_recordMacros`).
-/

namespace MethodMacros.Header

open Naming (IsPlainName IsPlainClass isPlainChar)
open Report (MethodRecord textOrNone)

/-! ## Records that can be printed -/

/-- A text that can stand in a comment on one line. -/
structure FitsComment (text : String) : Prop where
  clean : '\n' ∉ text.toList
  unclosed : ¬ "*/".toList <:+: text.toList

/-- A text that can stand in a string. -/
def FitsString (text : String) : Prop :=
  ∀ c ∈ text.toList, c ≠ '\n' ∧ c ≠ '"' ∧ c ≠ '\\'

instance (text : String) : Decidable (FitsComment text) :=
  decidable_of_iff ('\n' ∉ text.toList ∧ ¬ "*/".toList <:+: text.toList)
    ⟨fun h => ⟨h.1, h.2⟩, fun h => ⟨h.clean, h.unclosed⟩⟩

instance (text : String) : Decidable (FitsString text) :=
  decidable_of_iff (text.toList.all fun c => c ≠ '\n' ∧ c ≠ '"' ∧ c ≠ '\\') <| by
    simp only [List.all_eq_true, decide_eq_true_eq, FitsString]

/-- A record whose stem is that of its name, with texts that can stand where they are printed. -/
structure IsPrintable (r : MethodRecord) : Prop where
  stem : r.macroStem = Naming.macroStem r.name
  name : IsPlainName r.name
  declaration : FitsComment r.declarationLine
  signatureLine : ∀ line ∈ r.signatureLine, FitsComment line
  signature : ∀ signature ∈ r.signature, FitsString signature

instance (r : MethodRecord) : Decidable (IsPrintable r) :=
  decidable_of_iff
    ((r.macroStem = Naming.macroStem r.name ∧ IsPlainName r.name) ∧ FitsComment r.declarationLine ∧
      (∀ line ∈ r.signatureLine, FitsComment line) ∧ ∀ signature ∈ r.signature, FitsString signature)
    ⟨fun ⟨⟨hstem, hname⟩, hdeclaration, hline, hsignature⟩ =>
        ⟨hstem, hname, hdeclaration, hline, hsignature⟩,
      fun h => ⟨⟨h.stem, h.name⟩, h.declaration, h.signatureLine, h.signature⟩⟩

/-- The directives of a record. -/
def recordDirectives (r : MethodRecord) : List Directive :=
  [.define (nameMacro r.macroStem) (some r.name),
    .define (signatureMacro r.macroStem) (some (textOrNone r.signature))]

/-- The directives of a record, line by line. -/
def blockDirectives (r : MethodRecord) : List (List Directive) :=
  [[], [.define (nameMacro r.macroStem) (some r.name)], [],
    [.define (signatureMacro r.macroStem) (some (textOrNone r.signature))], []]

/-- The macros of a record. -/
def recordMacros (r : MethodRecord) : List String :=
  [nameMacro r.macroStem, signatureMacro r.macroStem]

/-! ## Characters -/

/-- Characters that a test tells apart differ. -/
theorem ne_of_test {test : Char → Bool} {c d : Char} (hc : test c) (hd : test d = false) : c ≠ d := by
  rintro rfl
  exact Bool.false_ne_true (hd.symm.trans hc)

theorem FitsString.of_plain {text : String} (h : ∀ c ∈ text.toList, isPlainChar c) :
    FitsString text := fun c hc =>
  have hplain := h c hc
  ⟨ne_of_test hplain rfl, ne_of_test hplain rfl, ne_of_test hplain rfl⟩

/-! ## The lines of a header -/

/-- A blank line. -/
theorem readsAs_blank : ReadsAs [] [] where
  clean := by simp
  unjoined := by simp
  bare := ⟨[], by simp, rfl, fun rest => by simp [withoutComments]⟩

/-- The blanks around a text do not help to close a comment. -/
theorem not_closed_of_fitsComment {text : String} (h : FitsComment text) :
    ¬ ['*', '/'] <:+: ' ' :: (text.toList ++ [' ']) := by
  intro hclosed
  rcases List.infix_cons_iff.mp hclosed with hprefix | hinfix
  · simp at hprefix
  · rcases List.infix_concat_iff.mp hinfix with hsuffix | hinfix
    · obtain ⟨front, hfront⟩ := hsuffix
      have hlast := congrArg List.getLast? hfront
      simp at hlast
    · exact h.unclosed hinfix

/-- A comment on a line of its own. -/
theorem readsAs_comment {text : String} (h : FitsComment text) :
    ReadsAs ("/* " ++ text ++ " */").toList [] := by
  have hchars : ("/* " ++ text ++ " */").toList =
      '/' :: '*' :: ((' ' :: (text.toList ++ [' '])) ++ ['*', '/']) := by
    simp
  have hlast : ("/* " ++ text ++ " */").toList.getLast? = some '/' := by
    rw [hchars, List.getLast?_cons_cons]
    simp [List.getLast?_append, List.getLast?_cons]
  refine ⟨by simp [h.clean], by rw [hlast]; decide, [' '], by simp, rfl, fun rest => ?_⟩
  have hcomment := withoutComments_blockComment (not_closed_of_fitsComment h) ('\n' :: rest)
  have hopen : ("/* " ++ text ++ " */").toList ++ '\n' :: rest =
      '/' :: '*' :: ((' ' :: (text.toList ++ [' '])) ++ '*' :: '/' :: '\n' :: rest) := by
    rw [hchars]
    simp
  rw [hopen, withoutComments, hcomment, withoutComments_lineFeed, Option.map_map]
  rfl

/-- A character of code outside of literals and comments. -/
def isCodeChar (c : Char) : Bool :=
  isPlainChar c || c == '#' || c == ' '

theorem FitsComment.of_code {text : String} (h : ∀ c ∈ text.toList, isCodeChar c) :
    FitsComment text where
  clean hfeed := ne_of_test (h _ hfeed) rfl rfl
  unclosed hclosed := by
    have hstar : '*' ∈ text.toList := hclosed.subset List.mem_cons_self
    exact ne_of_test (h _ hstar) rfl rfl

theorem withoutComments_of_isCodeChar {s : List Char} (h : ∀ c ∈ s, isCodeChar c)
    (rest : List Char) :
    withoutComments .code (s ++ rest) = (withoutComments .code rest).map (s ++ ·) :=
  withoutComments_code (fun c hc =>
    ⟨ne_of_test (h c hc) rfl, ne_of_test (h c hc) rfl, ne_of_test (h c hc) rfl⟩) rest

/-- A line of code without literals and comments. -/
theorem readsAs_code {line : List Char} {directives : List Directive}
    (h : ∀ c ∈ line, isCodeChar c) (hread : lineDirectives? line = some directives) :
    ReadsAs line directives := by
  have hclean : '\n' ∉ line := fun hfeed => ne_of_test (h _ hfeed) rfl rfl
  refine ⟨hclean, fun hlast => ?_, line, hclean, hread, fun rest => ?_⟩
  · exact ne_of_test (h _ (List.mem_of_getLast? hlast)) rfl rfl
  · rw [withoutComments_of_isCodeChar h]
    simp [withoutComments, Function.comp_def]

/-- A line that begins with the word of a directive. -/
theorem lineDirectives?_word {word : String} (hword : IsPlainName word) {rest : List Char}
    (hrest : rest.head?.all isSpacing) :
    lineDirectives? ('#' :: (word.toList ++ rest)) = (directiveOf? word rest).map ([·]) := by
  have hname : nextName? (word.toList ++ rest) = some (word, rest) :=
    nextName?_append [] hword rfl hrest
  have hblank : ('#' :: (word.toList ++ rest)).all isSpacing = false := by
    rw [List.all_cons]
    rfl
  have hbegins : ('#' :: (word.toList ++ rest)).dropWhile isSpacing =
      '#' :: (word.toList ++ rest) := rfl
  rw [lineDirectives?, hblank, directive?, hbegins]
  simp [hname]

variable {word name text : String}

/-- The name after the word of a directive. -/
theorem nextName?_blank (h : IsPlainName name) {rest : List Char} (hrest : rest.head?.all isSpacing) :
    nextName? (' ' :: (name.toList ++ rest)) = some (name, rest) :=
  nextName?_append [' '] h rfl hrest

/-- A directive with a name: its word and the name. -/
def directiveChars (word name : String) : List Char :=
  '#' :: (word.toList ++ ' ' :: name.toList)

theorem isCodeChar_of_mem_directiveChars (hword : IsPlainName word) (hname : IsPlainName name) :
    ∀ c ∈ directiveChars word name, isCodeChar c := by
  intro c hc
  have hcode : ∀ d, isPlainChar d → isCodeChar d := fun d hd => by simp [isCodeChar, hd]
  simp only [directiveChars, List.mem_cons, List.mem_append] at hc
  rcases hc with rfl | hc | rfl | hc
  · rfl
  · exact hcode c (hword.plain c hc)
  · rfl
  · exact hcode c (hname.plain c hc)

/-- A directive of a name alone. -/
theorem readsAs_directiveChars {directive : Directive} (hword : IsPlainName word)
    (hname : IsPlainName name)
    (hread : directiveOf? word (' ' :: (name.toList ++ [])) = some directive) :
    ReadsAs (directiveChars word name) [directive] := by
  refine readsAs_code (isCodeChar_of_mem_directiveChars hword hname) ?_
  rw [directiveChars, ← List.append_nil name.toList, lineDirectives?_word hword rfl, hread]
  rfl

theorem readsAs_unlessDefined (h : IsPlainName name) :
    ReadsAs ("#ifndef " ++ name).toList [.unlessDefined name] := by
  have hchars : ("#ifndef " ++ name).toList = directiveChars "ifndef" name := by
    simp [directiveChars]
  rw [hchars]
  refine readsAs_directiveChars (by decide) h ?_
  rw [directiveOf?, if_pos rfl, nextName?_blank h rfl]
  rfl

theorem readsAs_define (h : IsPlainName name) :
    ReadsAs ("#define " ++ name).toList [.define name none] := by
  have hchars : ("#define " ++ name).toList = directiveChars "define" name := by
    simp [directiveChars]
  rw [hchars]
  refine readsAs_directiveChars (by decide) h ?_
  rw [directiveOf?, if_neg (by decide), if_pos rfl, nextName?_blank h rfl]
  rfl

theorem toList_inQuotes (text : String) :
    (inQuotes text).toList = '"' :: (text.toList ++ ['"']) := by
  simp [inQuotes]

/-- What a string has is left alone. -/
theorem withoutComments_inQuotes (h : FitsString text) (rest : List Char) :
    withoutComments .code ((inQuotes text).toList ++ rest) =
      (withoutComments .code rest).map ((inQuotes text).toList ++ ·) := by
  have hopen : withoutComments .code ('"' :: (text.toList ++ '"' :: rest)) =
      (withoutComments (.literal '"') (text.toList ++ '"' :: rest)).map ('"' :: ·) := by
    simp [withoutComments]
  rw [toList_inQuotes, List.cons_append, List.append_assoc, List.singleton_append, hopen,
    withoutComments_string h, Option.map_map]
  simp [Function.comp_def]

/-- A macro that stands for a string. -/
theorem readsAs_defineString (h : IsPlainName name) (htext : FitsString text) :
    ReadsAs ("#define " ++ (name ++ (" " ++ inQuotes text))).toList [.define name (some text)] := by
  have hword : IsPlainName "define" := by decide
  have hchars : ("#define " ++ (name ++ (" " ++ inQuotes text))).toList =
      (directiveChars "define" name ++ [' ']) ++ (inQuotes text).toList := by
    simp [directiveChars]
  have hcode : ∀ c ∈ directiveChars "define" name ++ [' '], isCodeChar c := by
    intro c hc
    rcases List.mem_append.mp hc with hc | hc
    · exact isCodeChar_of_mem_directiveChars hword h c hc
    · rw [List.mem_singleton.mp hc]
      rfl
  have hclean : '\n' ∉ (directiveChars "define" name ++ [' ']) ++ (inQuotes text).toList := by
    have hfront : '\n' ∉ directiveChars "define" name ++ [' '] := fun hfeed =>
      ne_of_test (hcode _ hfeed) rfl rfl
    have htextClean : '\n' ∉ text.toList := fun hfeed => (htext _ hfeed).1 rfl
    have hback : '\n' ∉ (inQuotes text).toList := by simp [toList_inQuotes, htextClean]
    exact fun hfeed => (List.mem_append.mp hfeed).elim hfront hback
  have hlast : ((directiveChars "define" name ++ [' ']) ++ (inQuotes text).toList).getLast? =
      some '"' := by
    rw [toList_inQuotes, ← List.cons_append, ← List.append_assoc, List.getLast?_concat]
  have hread : directiveOf? "define" (' ' :: (name.toList ++ ' ' :: (inQuotes text).toList)) =
      some (.define name (some text)) := by
    have hreplacement := replacement?_string fun c hc => (htext c hc).2
    rw [directiveOf?, if_neg (by decide), if_pos rfl, nextName?_blank h rfl, toList_inQuotes]
    simp [hreplacement]
  rw [hchars]
  refine ⟨hclean, by rw [hlast]; decide, _, hclean, ?_, fun rest => ?_⟩
  · rw [directiveChars, List.append_assoc, List.singleton_append, List.cons_append,
      List.append_assoc, List.cons_append, lineDirectives?_word hword rfl, hread]
    rfl
  · rw [List.append_assoc, withoutComments_of_isCodeChar hcode, withoutComments_inQuotes htext,
      withoutComments_lineFeed]
    simp [Function.comp_def]

/-- The end of the guard, with the macro of the guard in a comment. -/
theorem readsAs_endif (h : IsPlainName name) :
    ReadsAs ("#endif //" ++ name).toList [.endif] := by
  have hchars : ("#endif //" ++ name).toList = "#endif ".toList ++ '/' :: '/' :: name.toList := by
    simp
  have hclean : '\n' ∉ name.toList := fun hfeed => ne_of_test (h.plain _ hfeed) rfl rfl
  have hescape : '\\' ∉ name.toList := fun hmem => ne_of_test (h.plain _ hmem) rfl rfl
  have hescape' : '\\' ∉ "#endif ".toList ++ '/' :: '/' :: name.toList := by simp [hescape]
  rw [hchars]
  refine ⟨by simp [hclean], fun hlast => hescape' (List.mem_of_getLast? hlast), "#endif  ".toList,
    by decide, by decide, fun rest => ?_⟩
  have hcode : ∀ c ∈ "#endif ".toList, isCodeChar c := List.all_eq_true.mp rfl
  rw [List.append_assoc, withoutComments_of_isCodeChar hcode, List.cons_append, List.cons_append,
    withoutComments, withoutComments_lineComment hclean]
  simp [Function.comp_def]

/-! ## The whole header -/

variable {className : String} {records : List MethodRecord}

namespace IsPrintable

variable {r : MethodRecord} (h : IsPrintable r)
include h

theorem signatureLine_fits : FitsComment (textOrNone r.signatureLine) := by
  cases hline : r.signatureLine with
  | none => exact .of_code (List.all_eq_true.mp rfl)
  | some line => exact h.signatureLine line hline

theorem signature_fits : FitsString (textOrNone r.signature) := by
  cases hsignature : r.signature with
  | none => exact .of_plain (List.all_eq_true.mp rfl)
  | some signature => exact h.signature signature hsignature

theorem isPlainName_stem : IsPlainName r.macroStem := by
  rw [h.stem]
  exact Naming.isPlainName_macroStem h.name

theorem isPlainName_nameMacro : IsPlainName (nameMacro r.macroStem) :=
  h.isPlainName_stem.append (List.all_eq_true.mp rfl)

theorem isPlainName_signatureMacro : IsPlainName (signatureMacro r.macroStem) :=
  h.isPlainName_stem.append (List.all_eq_true.mp rfl)

/-- The lines of a record have its two directives. -/
theorem readsAs_methodBlock :
    List.Forall₂ ReadsAs ((methodBlock r).map String.toList) (blockDirectives r) := by
  rw [methodBlock_eq]
  exact .cons (readsAs_comment h.declaration)
    (.cons (readsAs_defineString h.isPlainName_nameMacro (.of_plain h.name.plain))
      (.cons (readsAs_comment h.signatureLine_fits)
        (.cons (readsAs_defineString h.isPlainName_signatureMacro h.signature_fits)
          (.cons readsAs_blank .nil))))

end IsPrintable

/-- The macro of the guard is a name. -/
theorem isPlainName_guardMacro (h : IsPlainClass className) : IsPlainName (guardMacro className) := by
  have hstart : IsPlainName "_Callbacks_" := by decide
  exact hstart.append fun c hc => Naming.isPlainChar_of_mem_guardToken h hc

/-- The lines before the methods have the directives that open the guard. -/
theorem readsAs_opening (h : IsPlainClass className) :
    List.Forall₂ ReadsAs ((opening className).map String.toList)
      [[], [], [], [.unlessDefined (guardMacro className)], [.define (guardMacro className) none], []] := by
  have hguard := isPlainName_guardMacro h
  have hbanner : FitsComment "DO NOT EDIT THIS FILE - it is machine generated" :=
    ⟨by decide, by decide⟩
  have htitle : FitsComment ("Header for class " ++ Naming.guardToken className) := by
    refine .of_code fun c hc => ?_
    rw [String.toList_append, List.mem_append] at hc
    rcases hc with hc | hc
    · have hwords : "Header for class ".toList.all isCodeChar := rfl
      exact List.all_eq_true.mp hwords c hc
    · simp [isCodeChar, Naming.isPlainChar_of_mem_guardToken h hc]
  have hclass : "/* Header for class " ++ Naming.guardToken className ++ " */" =
      "/* " ++ ("Header for class " ++ Naming.guardToken className) ++ " */" :=
    String.toList_inj.mp (by simp)
  rw [opening, hclass]
  exact .cons (readsAs_comment hbanner) (.cons (readsAs_comment htitle)
    (.cons readsAs_blank (.cons (readsAs_unlessDefined hguard)
      (.cons (readsAs_define hguard) (.cons readsAs_blank .nil)))))

/-- The lines of the methods have the directives of the records. -/
theorem readsAs_blocks (h : ∀ r ∈ records, IsPrintable r) :
    List.Forall₂ ReadsAs ((records.flatMap methodBlock).map String.toList)
      (records.flatMap blockDirectives) := by
  induction records with
  | nil => exact .nil
  | cons r records ih =>
    have hr := (h r List.mem_cons_self).readsAs_methodBlock
    have hrest := ih fun r' hr' => h r' (List.mem_cons_of_mem r hr')
    rw [List.flatMap_cons, List.flatMap_cons, List.map_append]
    exact List.rel_append hr hrest

theorem flatten_blockDirectives (records : List MethodRecord) :
    (records.flatMap blockDirectives).flatten = records.flatMap recordDirectives := by
  induction records with
  | nil => rfl
  | cons r records ih =>
    rw [List.flatMap_cons, List.flatMap_cons, List.flatten_append, ih]
    rfl

/-- The directives of a header are those of its guard and of its records. -/
theorem directives?_render (hclass : IsPlainClass className)
    (hrecords : ∀ r ∈ records, IsPrintable r) :
    directives? (render className records) = some
      ([.unlessDefined (guardMacro className), .define (guardMacro className) none] ++
        records.flatMap recordDirectives ++ [.endif]) := by
  have hclosing : List.Forall₂ ReadsAs ([closing className].map String.toList) [[.endif]] :=
    .cons (readsAs_endif (isPlainName_guardMacro hclass)) .nil
  have hlines : List.Forall₂ ReadsAs ((lines className records).map String.toList)
      ([[], [], [], [.unlessDefined (guardMacro className)],
        [.define (guardMacro className) none], []] ++
        records.flatMap blockDirectives ++ [[.endif]]) := by
    rw [lines, List.map_append, List.map_append]
    exact List.rel_append (List.rel_append (readsAs_opening hclass) (readsAs_blocks hrecords))
      hclosing
  rw [directives?_of_readsAs (toList_render className records) hlines, List.flatten_append,
    List.flatten_append, flatten_blockDirectives]
  rfl

/-- Macros meet only if their stems are the same. -/
theorem macroStem_eq_of_mem {r r' : MethodRecord} {m : String} (h : m ∈ recordMacros r)
    (h' : m ∈ recordMacros r') : r.macroStem = r'.macroStem := by
  simp only [recordMacros, List.mem_cons, List.not_mem_nil, or_false] at h h'
  rcases h with rfl | rfl <;> rcases h' with h' | h'
  · exact nameMacro_inj.mp h'
  · exact absurd h' (nameMacro_ne_signatureMacro _ _)
  · exact absurd h'.symm (nameMacro_ne_signatureMacro _ _)
  · exact signatureMacro_inj.mp h'

/-- The macro of a guard has a small letter. -/
theorem small_mem_guardMacro (className : String) : 'a' ∈ (guardMacro className).toList := by
  rw [guardMacro, String.toList_append]
  exact List.mem_append_left _ (by decide)

/-- The macros of a record have no small letters. -/
theorem small_not_mem_of_mem_recordMacros {r : MethodRecord} (h : IsPrintable r) {m : String}
    (hm : m ∈ recordMacros r) : 'a' ∉ m.toList := by
  have hstem : 'a' ∉ r.macroStem.toList := by
    rw [h.stem]
    exact Naming.not_mem_macroStem_of_small (by decide) (by decide)
  simp only [recordMacros, List.mem_cons, List.not_mem_nil, or_false] at hm
  rcases hm with rfl | rfl
  · simp [nameMacro, hstem]
  · simp [signatureMacro, hstem]

/-- **Directives.**  A preprocessor reads from a header what its records say: the guard, then for
each record in order the macro of its name and the macro of its signature as strings, and the end of
the guard.  All macros are names, none of a record is that of the guard, and macros of two records
meet only if the records have one stem. -/
theorem directives_render (hclass : IsPlainClass className)
    (hrecords : ∀ r ∈ records, IsPrintable r) :
    let guardName := guardMacro className
    directives? (render className records) = some
      ([.unlessDefined guardName, .define guardName none] ++ records.flatMap recordDirectives ++
        [.endif]) ∧
      IsPlainName guardName ∧ (∀ r ∈ records, ∀ m ∈ recordMacros r, IsPlainName m) ∧
      (∀ r ∈ records, guardName ∉ recordMacros r) ∧
      ∀ r ∈ records, ∀ r' ∈ records, ∀ m ∈ recordMacros r, m ∈ recordMacros r' →
        r.macroStem = r'.macroStem := by
  intro guardName
  have hguard : IsPlainName guardName := isPlainName_guardMacro hclass
  refine ⟨directives?_render hclass hrecords, hguard, fun r hr m hm => ?_, fun r hr hm => ?_,
    fun r _ r' _ m hm hm' => macroStem_eq_of_mem hm hm'⟩
  · have hprintable := hrecords r hr
    simp only [recordMacros, List.mem_cons, List.not_mem_nil, or_false] at hm
    rcases hm with rfl | rfl
    · exact hprintable.isPlainName_nameMacro
    · exact hprintable.isPlainName_signatureMacro
  · exact small_not_mem_of_mem_recordMacros (hrecords r hr) hm (small_mem_guardMacro className)

/-- Texts from the report may hold quotation marks, backslashes, and what would open comments. -/
theorem directives_render_hostile :
    let first : MethodRecord :=
      { declarationLine := "native void f$1(); // \"a /* b\" c \\", name := "f$1", macroStem := "F$1",
        signature := some "(I)V // /* '", signatureLine := some "Signature: (I)V // /* '" }
    let second : MethodRecord :=
      { declarationLine := "/ void value2X(", name := "value2X", macroStem := "VALUE2_X",
        signature := some "()I", signatureLine := some "*" }
    IsPlainClass "com.example.Foo" ∧ (∀ r ∈ [first, second], IsPrintable r) ∧
      directives? (render "com.example.Foo" [first, second]) = some
        [.unlessDefined "_Callbacks_com_example_Foo", .define "_Callbacks_com_example_Foo" none,
          .define "F$1_NAME" (some "f$1"), .define "F$1_SIGNATURE" (some "(I)V // /* '"),
          .define "VALUE2_X_NAME" (some "value2X"), .define "VALUE2_X_SIGNATURE" (some "()I"),
          .endif] := by
  intro first second
  have hclass : IsPlainClass "com.example.Foo" :=
    ⟨["com", "example", "Foo"], by decide, by decide, by decide⟩
  have hfirst : IsPrintable first := by decide +kernel
  have hsecond : IsPrintable second := by decide +kernel
  have hrecords : ∀ r ∈ [first, second], IsPrintable r := by
    simp [hfirst, hsecond]
  have hguard : guardMacro "com.example.Foo" = "_Callbacks_com_example_Foo" := by decide +kernel
  refine ⟨hclass, hrecords, ?_⟩
  rw [(directives_render hclass hrecords).1, hguard]
  rfl

end MethodMacros.Header
