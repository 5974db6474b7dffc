import MethodMacros.Text.Lines

/-!
# Texts written as lines

A text is written line by line, each line ended by a terminator of one of three kinds.  The last one
may be missing, if its line is not empty; and a carriage return that ends a line by itself must not
stand before a line feed, since together they would be a single terminator.  Cutting such a text
gives the lines back, whatever the terminators are.

Each text is written so, as its own lines.  So what becomes of the lines when texts are joined, or
when terminators are replaced by others, can be told from how the texts are written.

* `WrittenAs`: a text is written as some lines.
* `reportLines_of_writtenAs`, `writtenAs_reportLines`: cutting gives these lines, and the lines that
  are cut are written so.
* `reportLines_append`: texts are joined at the end of a line, unless the two halves of a terminator
  would meet.
* `reportLines_unifyNewlines`: other terminators, same lines.
* `WrittenAs.flatMap_toList`, `reportLines_reads`: lines have all characters but the terminators.
-/

namespace MethodMacros.Text

/-- What can end a line. -/
inductive Terminator where
  | lineFeed
  | pair
  | carriageReturn
  deriving DecidableEq, Repr

/-- The characters of a terminator. -/
def Terminator.chars : Terminator → List Char
  | .lineFeed => ['\n']
  | .pair => ['\r', '\n']
  | .carriageReturn => ['\r']

/-- A text without terminators in it. -/
def IsLine (line : List Char) : Prop := '\r' ∉ line ∧ '\n' ∉ line

instance (line : List Char) : Decidable (IsLine line) :=
  inferInstanceAs (Decidable ('\r' ∉ line ∧ '\n' ∉ line))

theorem IsLine.of_cons {c : Char} {line : List Char} (h : IsLine (c :: line)) :
    (c ≠ '\r' ∧ c ≠ '\n') ∧ IsLine line :=
  ⟨⟨fun he => h.1 (he ▸ List.mem_cons_self), fun he => h.2 (he ▸ List.mem_cons_self)⟩,
    fun hmem => h.1 (List.mem_cons_of_mem c hmem), fun hmem => h.2 (List.mem_cons_of_mem c hmem)⟩

/-- A text is written as a list of lines. -/
inductive WrittenAs : List Char → List String → Prop where
  | empty : WrittenAs [] []
  | unterminated (line : String) (hline : IsLine line.toList) (hne : line.toList ≠ []) :
      WrittenAs line.toList [line]
  | terminated (line : String) (t : Terminator) {rest : List Char} {lines : List String}
      (hline : IsLine line.toList) (hrest : WrittenAs rest lines)
      (hlone : t = .carriageReturn → rest.head? ≠ some '\n') :
      WrittenAs (line.toList ++ (t.chars ++ rest)) (line :: lines)

/-- The lines that a text is written as hold no terminators. -/
theorem WrittenAs.isLine {text : List Char} {lines : List String} (h : WrittenAs text lines) :
    ∀ line ∈ lines, IsLine line.toList := by
  induction h with
  | empty => simp
  | unterminated line hline hne => simpa using hline
  | terminated line t hline hrest hlone ih =>
    intro other hother
    rcases List.mem_cons.mp hother with rfl | hother
    · exact hline
    · exact ih other hother

/-- Lines can be written with a line feed after each of them. -/
theorem writtenAs_flatMap {lines : List String} (h : ∀ line ∈ lines, IsLine line.toList) :
    WrittenAs (lines.flatMap fun line => line.toList ++ ['\n']) lines := by
  induction lines with
  | nil => exact .empty
  | cons line lines ih =>
    have hrest := ih fun other hother => h other (List.mem_cons_of_mem line hother)
    rw [List.flatMap_cons, List.append_assoc]
    exact .terminated line .lineFeed (h line List.mem_cons_self) hrest fun h => by cases h

/-- The characters of a line are taken over one by one. -/
theorem reportLinesFrom_append {line : List Char} (hline : IsLine line) (done rest : List Char) :
    reportLinesFrom done (line ++ rest) = reportLinesFrom (line.reverse ++ done) rest := by
  induction line generalizing done with
  | nil => rfl
  | cons c line ih =>
    obtain ⟨hc, hline'⟩ := hline.of_cons
    rw [List.cons_append, reportLinesFrom]
    · rw [ih hline', List.reverse_cons, List.append_assoc, List.singleton_append]
    · exact fun rest' he => absurd he hc.1
    · exact hc.1
    · exact hc.2

/-- A terminator ends the line. -/
theorem reportLinesFrom_terminator (t : Terminator) {done rest : List Char}
    (hlone : t = .carriageReturn → rest.head? ≠ some '\n') :
    reportLinesFrom done (t.chars ++ rest) = done.reverse :: reportLinesFrom [] rest := by
  cases t with
  | lineFeed => rfl
  | pair => rfl
  | carriageReturn =>
    have hhead := hlone rfl
    cases rest with
    | nil => rfl
    | cons c rest =>
      rw [List.head?_cons, ne_eq, Option.some_inj] at hhead
      rw [Terminator.chars, List.singleton_append, reportLinesFrom]
      exact fun rest' he => hhead (List.cons.inj he).1

theorem reportLinesFrom_of_writtenAs {text : List Char} {lines : List String}
    (h : WrittenAs text lines) : reportLinesFrom [] text = lines.map String.toList := by
  induction h with
  | empty => rfl
  | unterminated line hline hne =>
    have hcut := reportLinesFrom_append hline [] []
    rw [List.append_nil, List.append_nil] at hcut
    rw [hcut, reportLinesFrom, List.reverse_reverse, if_neg (by simpa using hne)]
    rfl
  | terminated line t hline hrest hlone ih =>
    rw [reportLinesFrom_append hline, reportLinesFrom_terminator t hlone, ih, List.append_nil,
      List.reverse_reverse, List.map_cons]

/-- **Cutting what was written.**  The lines of a text are those that it is written as. -/
theorem reportLines_of_writtenAs {text : String} {lines : List String}
    (h : WrittenAs text.toList lines) : reportLines text = lines := by
  rw [reportLines, reportLinesFrom_of_writtenAs h, List.map_map]
  simp [Function.comp_def]

/-! ## The lines of any text -/

theorem isLine_reverse {done : List Char} (hdone : IsLine done) : IsLine done.reverse :=
  ⟨fun h => hdone.1 (List.mem_reverse.mp h), fun h => hdone.2 (List.mem_reverse.mp h)⟩

theorem isLine_cons {c : Char} {done : List Char} (hdone : IsLine done) (hr : c ≠ '\r')
    (hn : c ≠ '\n') : IsLine (c :: done) :=
  ⟨fun h => hdone.1 ((List.mem_cons.mp h).resolve_left hr.symm),
    fun h => hdone.2 ((List.mem_cons.mp h).resolve_left hn.symm)⟩

/-- What has been taken over holds no terminator, so no line does. -/
theorem isLine_of_mem_reportLinesFrom {done text line : List Char} (hdone : IsLine done)
    (h : line ∈ reportLinesFrom done text) : IsLine line := by
  have hnil : IsLine [] := ⟨List.not_mem_nil, List.not_mem_nil⟩
  fun_induction reportLinesFrom done text with
  | case1 done hempty => cases h
  | case2 done hempty =>
    obtain rfl := List.mem_singleton.mp h
    exact isLine_reverse hdone
  | case3 done rest ih | case4 done rest hpair ih | case5 done rest ih =>
    rcases List.mem_cons.mp h with rfl | h
    · exact isLine_reverse hdone
    · exact ih hnil h
  | case6 done c rest hpair hr hn ih => exact ih (isLine_cons hdone hr hn) h

/-- The lines of a report hold no terminators. -/
theorem isLine_of_mem_reportLines {text line : String} (h : line ∈ reportLines text) :
    IsLine line.toList := by
  obtain ⟨chars, hchars, rfl⟩ := List.mem_map.mp h
  rw [String.toList_ofList]
  exact isLine_of_mem_reportLinesFrom ⟨List.not_mem_nil, List.not_mem_nil⟩ hchars

/-- A text is written as the lines that are cut from it, from the start of a line on. -/
theorem writtenAs_reportLinesFrom {done text : List Char} (hdone : IsLine done) :
    WrittenAs (done.reverse ++ text) ((reportLinesFrom done text).map String.ofList) := by
  have hnil : IsLine [] := ⟨List.not_mem_nil, List.not_mem_nil⟩
  have hstart : ∀ {cs : List Char}, IsLine cs → IsLine (String.ofList cs.reverse).toList :=
    fun hcs => by rw [String.toList_ofList]; exact isLine_reverse hcs
  fun_induction reportLinesFrom done text with
  | case1 done hempty =>
    obtain rfl := List.isEmpty_iff.mp hempty
    exact .empty
  | case2 done hempty =>
    have hline := WrittenAs.unterminated (String.ofList done.reverse) (hstart hdone)
      (by simpa using hempty)
    simpa using hline
  | case3 done rest ih =>
    have hline := WrittenAs.terminated (String.ofList done.reverse) .pair (hstart hdone) (ih hnil)
      (by simp)
    simpa [Terminator.chars] using hline
  | case4 done rest hpair ih =>
    have hlone : rest.head? ≠ some '\n' := by
      cases rest with
      | nil => simp
      | cons c rest => exact fun hc => hpair rest (by rw [Option.some.inj hc])
    have hline := WrittenAs.terminated (String.ofList done.reverse) .carriageReturn (hstart hdone)
      (ih hnil) (fun _ => hlone)
    simpa [Terminator.chars] using hline
  | case5 done rest ih =>
    have hline := WrittenAs.terminated (String.ofList done.reverse) .lineFeed (hstart hdone)
      (ih hnil) (by simp)
    simpa [Terminator.chars] using hline
  | case6 done c rest hpair hr hn ih =>
    simpa using ih (isLine_cons hdone hr hn)

/-- Each text is written as its lines. -/
theorem writtenAs_reportLines (text : String) : WrittenAs text.toList (reportLines text) :=
  writtenAs_reportLinesFrom ⟨List.not_mem_nil, List.not_mem_nil⟩

/-! ## Texts one after the other -/

/-- After a text a new line starts: it is empty, or it ends with a terminator. -/
def EndsLine (text : List Char) : Prop :=
  text = [] ∨ text.getLast? = some '\r' ∨ text.getLast? = some '\n'

/-- Between two texts a single terminator would be cut in two. -/
def CutsPair (a b : List Char) : Prop := a.getLast? = some '\r' ∧ b.head? = some '\n'

instance (text : List Char) : Decidable (EndsLine text) :=
  inferInstanceAs (Decidable (_ ∨ _ ∨ _))

instance (a b : List Char) : Decidable (CutsPair a b) :=
  inferInstanceAs (Decidable (_ ∧ _))

/-- What follows a terminator in a text that ends a line does so too. -/
theorem endsLine_of_append {start rest : List Char} (h : EndsLine (start ++ rest)) :
    EndsLine rest := by
  cases rest with
  | nil => exact .inl rfl
  | cons c rest =>
    have hlast : (start ++ c :: rest).getLast? = (c :: rest).getLast? := by
      rw [List.getLast?_append, List.getLast?_cons, Option.some_or]
    rcases h with h | h
    · cases (List.append_eq_nil_iff.mp h).2
    · exact .inr (hlast ▸ h)

/-- A line without a terminator does not end the line, unless it is empty. -/
theorem not_endsLine_of_isLine {line : List Char} (hline : IsLine line) (hne : line ≠ []) :
    ¬ EndsLine line := by
  rintro (h | h | h)
  · exact hne h
  · exact hline.1 (List.mem_of_getLast? h)
  · exact hline.2 (List.mem_of_getLast? h)

/-- Lines written one after the other are written as one list, unless a terminator comes about where
they meet. -/
theorem WrittenAs.append {a b : List Char} {xs ys : List String} (ha : WrittenAs a xs)
    (hb : WrittenAs b ys) (hends : EndsLine a) (hcut : ¬ CutsPair a b) :
    WrittenAs (a ++ b) (xs ++ ys) := by
  induction ha with
  | empty => exact hb
  | unterminated line hline hne => exact absurd hends (not_endsLine_of_isLine hline hne)
  | @terminated line t rest lines hline hrest hlone ih =>
    have hrestEnds : EndsLine rest := by
      rw [← List.append_assoc] at hends
      exact endsLine_of_append hends
    have hrestCut : ¬ CutsPair rest b := by
      rintro ⟨hlast, hhead⟩
      refine hcut ⟨?_, hhead⟩
      rw [← List.append_assoc, List.getLast?_append, hlast, Option.some_or]
    rw [List.append_assoc, List.append_assoc, List.cons_append]
    refine .terminated line t hline (ih hrestEnds hrestCut) fun hreturn => ?_
    cases rest with
    | cons c rest => exact hlone hreturn
    | nil =>
      subst hreturn
      exact fun hhead => hcut ⟨by simp [Terminator.chars], hhead⟩

/-- **Texts one after the other.**  Their lines follow each other too. -/
theorem reportLines_append {a b : String} (hends : EndsLine a.toList)
    (hcut : ¬ CutsPair a.toList b.toList) :
    reportLines (a ++ b) = reportLines a ++ reportLines b := by
  have hwritten := (writtenAs_reportLines a).append (writtenAs_reportLines b) hends hcut
  rw [← String.toList_append] at hwritten
  exact reportLines_of_writtenAs hwritten

/-! ## Texts with line feeds only -/

/-- The characters of a line are no newlines, and taken over one by one. -/
theorem unifyNewlinesFrom_append {line : List Char} (hline : IsLine line) (done rest : List Char) :
    unifyNewlinesFrom done (line ++ rest) = unifyNewlinesFrom (line.reverse ++ done) rest := by
  induction line generalizing done with
  | nil => rfl
  | cons c line ih =>
    obtain ⟨⟨hc, -⟩, hline'⟩ := hline.of_cons
    rw [List.cons_append, unifyNewlinesFrom]
    · rw [ih hline', List.reverse_cons, List.append_assoc, List.singleton_append]
    · exact fun rest' he => absurd he hc
    · exact hc

/-- A terminator becomes a line feed. -/
theorem unifyNewlinesFrom_terminator (t : Terminator) {done rest : List Char}
    (hlone : t = .carriageReturn → rest.head? ≠ some '\n') :
    unifyNewlinesFrom done (t.chars ++ rest) = unifyNewlinesFrom ('\n' :: done) rest := by
  cases t with
  | lineFeed => rfl
  | pair => rfl
  | carriageReturn =>
    have hhead := hlone rfl
    cases rest with
    | nil => rfl
    | cons c rest =>
      rw [List.head?_cons, ne_eq, Option.some_inj] at hhead
      rw [Terminator.chars, List.singleton_append, unifyNewlinesFrom]
      exact fun rest' he => hhead (List.cons.inj he).1

/-- With line feeds in place of its terminators a text has the same lines. -/
theorem WrittenAs.exists_unifyNewlinesFrom {text : List Char} {lines : List String}
    (h : WrittenAs text lines) (done : List Char) :
    ∃ unified, unifyNewlinesFrom done text = done.reverse ++ unified ∧
      WrittenAs unified lines := by
  induction h generalizing done with
  | empty => exact ⟨[], by simp [unifyNewlinesFrom], .empty⟩
  | unterminated line hline hne =>
    refine ⟨line.toList, ?_, .unterminated line hline hne⟩
    have htaken := unifyNewlinesFrom_append hline done []
    rw [List.append_nil] at htaken
    rw [htaken, unifyNewlinesFrom, List.reverse_append, List.reverse_reverse]
  | terminated line t hline hrest hlone ih =>
    obtain ⟨unified, hunified, hwritten⟩ := ih ('\n' :: (line.toList.reverse ++ done))
    refine ⟨line.toList ++ (Terminator.lineFeed.chars ++ unified), ?_,
      .terminated line .lineFeed hline hwritten (by simp)⟩
    rw [unifyNewlinesFrom_append hline, unifyNewlinesFrom_terminator t hlone, hunified]
    simp [Terminator.chars]

/-- **Unified newlines.**  A report has the same lines whether its terminators have been turned into
line feeds or not. -/
theorem reportLines_unifyNewlines (text : String) :
    reportLines (String.ofList (unifyNewlines text.toList)) = reportLines text := by
  obtain ⟨unified, hunified, hwritten⟩ := (writtenAs_reportLines text).exists_unifyNewlinesFrom []
  refine reportLines_of_writtenAs ?_
  rw [String.toList_ofList, unifyNewlines, hunified]
  exact hwritten

/-! ## Lines and characters -/

/-- What is neither a carriage return nor a line feed stands in the lines, in the order of the
text. -/
theorem WrittenAs.flatMap_toList {text : List Char} {lines : List String}
    (h : WrittenAs text lines) :
    lines.flatMap String.toList = text.filter fun c => c ≠ '\r' ∧ c ≠ '\n' := by
  have hkept : ∀ {line : List Char}, IsLine line →
      line.filter (fun c => c ≠ '\r' ∧ c ≠ '\n') = line := by
    intro line hline
    refine List.filter_eq_self.mpr fun c hc => decide_eq_true ⟨?_, ?_⟩
    · rintro rfl
      exact hline.1 hc
    · rintro rfl
      exact hline.2 hc
  induction h with
  | empty => rfl
  | unterminated line hline hne => simp only [List.flatMap_singleton, hkept hline]
  | terminated line t hline hrest hlone ih =>
    have hdropped : t.chars.filter (fun c => c ≠ '\r' ∧ c ≠ '\n') = [] := by
      cases t <;> rfl
    rw [List.flatMap_cons, ih, List.filter_append, List.filter_append, hkept hline, hdropped,
      List.nil_append]

/-- A text has the lines that it is written as, and no others. -/
theorem reportLines_eq_iff {text : String} {lines : List String} :
    reportLines text = lines ↔ WrittenAs text.toList lines := by
  constructor
  · rintro rfl
    exact writtenAs_reportLines text
  · exact reportLines_of_writtenAs

/-- **Reading line by line.**  A text has the lines that it can be written as, with a terminator of
any kind after each of them but the last, which may go without if it is not empty.  The lines hold
no carriage return and no line feed, and all the other characters of the text.  They do not change
when line feeds are put in place of the other terminators. -/
theorem reportLines_reads (text : String) :
    (∀ lines, reportLines text = lines ↔ WrittenAs text.toList lines) ∧
      (∀ line ∈ reportLines text, IsLine line.toList) ∧
      (reportLines text).flatMap String.toList =
        text.toList.filter (fun c => c ≠ '\r' ∧ c ≠ '\n') ∧
      reportLines (String.ofList (unifyNewlines text.toList)) = reportLines text :=
  ⟨fun _ => reportLines_eq_iff, fun _ hline => isLine_of_mem_reportLines hline,
    (writtenAs_reportLines text).flatMap_toList, reportLines_unifyNewlines text⟩

example : reportLines "a\r\r\n\x0c\u2028\n\rb" = ["a", "", "\x0c\u2028", "", "b"] := by
  decide

end MethodMacros.Text
