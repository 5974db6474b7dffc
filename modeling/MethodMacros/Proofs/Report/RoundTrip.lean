import MethodMacros.Header
import MethodMacros.Proofs.Report.StandardPatterns
import MethodMacros.Proofs.Text.ReportLines

/-!
# Reports of methods and their headers

A report that consists of methods, with noise around them, gives the header of just these methods.
A method is a declaration line and, possibly after some noise, a signature line; noise is what no
pattern matches.  The main statement, `generate_of_parts`, starts from the text of the report, so it
covers the cutting into lines, the patterns, the pairing and the rendering.

Most of the work is to show that each line is what it is meant to be and nothing else.  The name of a
declaration is the only one that can be captured, because the line has a single opening parenthesis
and the last blank before it is the one in front of the name.  A signature line cannot pass for a
declaration, because a blank stands in front of its only opening parenthesis.

* `DeclarationLine`, `SignatureLine`, `IsNoise`, `ReportPart`: what such a report is made of.
* `sort_declaration`, `sort_signature`, `sort_noise`: what the patterns make of each line.
* `readFrom_parts`: what is read from the parts.
-/

namespace MethodMacros.Report

open Text (isBlank IsLine WrittenAs)

/-! ## The lines of a method -/

/-- A parenthesis of either kind. -/
def IsParenthesis (c : Char) : Prop := c = '(' ∨ c = ')'

instance : DecidablePred IsParenthesis :=
  fun c => inferInstanceAs (Decidable (c = '(' ∨ c = ')'))

/-- The parts of a line that declares a method: what stands before the name, the blanks between, the
name, the arguments, and what stands behind them. -/
structure DeclarationLine where
  before : List Char
  gap : List Char
  name : List Char
  arguments : List Char
  after : List Char
  before_chars : ∀ c ∈ before, ¬ IsParenthesis c
  gap_ne_nil : gap ≠ []
  gap_chars : ∀ c ∈ gap, isBlank c = true
  name_ne_nil : name ≠ []
  name_chars : ∀ c ∈ name, isBlank c = false ∧ c ≠ '.' ∧ ¬ IsParenthesis c
  arguments_chars : ∀ c ∈ arguments, ¬ IsParenthesis c
  after_chars : ∀ c ∈ after, ¬ IsParenthesis c

/-- The characters of a declaration. -/
def DeclarationLine.chars (d : DeclarationLine) : List Char :=
  d.before ++ (d.gap ++ (d.name ++ '(' :: (d.arguments ++ ')' :: (d.after ++ [';']))))

/-- The declaration of which the reading is to know. -/
def DeclarationLine.declaration (d : DeclarationLine) : Declaration :=
  ⟨String.ofList d.chars, String.ofList d.name⟩

/-- A line begins like an error. -/
def BeginsAsError (line : List Char) : Prop := "ERROR:".toList <+: line

instance (line : List Char) : Decidable (BeginsAsError line) :=
  inferInstanceAs (Decidable ("ERROR:".toList <+: line))

/-- A line begins like a signature: with the word for it, between blanks. -/
def BeginsAsSignature (line : List Char) : Prop :=
  ∃ start c rest, (∀ b ∈ start, isBlank b = true) ∧ isBlank c = true ∧
    line = start ++ ("Signature:".toList ++ c :: rest)

/-- The parts of a line that gives a signature: blanks around the word for signatures, and a
descriptor that is opened by its only opening parenthesis. -/
structure SignatureLine where
  start : List Char
  gap : List Char
  descriptor : List Char
  start_chars : ∀ c ∈ start, isBlank c = true
  gap_ne_nil : gap ≠ []
  gap_chars : ∀ c ∈ gap, isBlank c = true
  descriptor_chars : ∀ c ∈ descriptor, c ≠ '(' ∧ isBlank c = false

/-- The signature that is given. -/
def SignatureLine.signature (s : SignatureLine) : List Char := '(' :: s.descriptor

/-- The characters of a line with a signature. -/
def SignatureLine.chars (s : SignatureLine) : List Char :=
  s.start ++ ("Signature:".toList ++ (s.gap ++ s.signature))

/-- A line that no standard pattern matches. -/
structure IsNoise (line : String) : Prop where
  not_error : standardPatterns.isError line = false
  not_declaration : standardPatterns.isDeclaration line = false
  not_signature : standardPatterns.isSignature line = false

/-- A part of a report: a line of noise, or a method whose two lines may have noise in between. -/
inductive ReportPart where
  | noise (line : String) (h : IsNoise line)
  | method (d : DeclarationLine) (hError : ¬ BeginsAsError d.chars)
      (hSignature : ¬ BeginsAsSignature d.chars) (between : List String)
      (hbetween : ∀ line ∈ between, IsNoise line) (s : SignatureLine)

/-- The lines of a part. -/
def ReportPart.lines : ReportPart → List String
  | .noise line _ => [line]
  | .method d _ _ between _ s => String.ofList d.chars :: between ++ [String.ofList s.chars]

/-- The record that a part is to give. -/
def ReportPart.record? : ReportPart → Option MethodRecord
  | .noise _ _ => none
  | .method d _ _ _ _ s => some {
      declarationLine := String.ofList d.chars
      name := String.ofList d.name
      macroStem := Naming.macroStem (String.ofList d.name)
      signature := some (String.ofList s.signature)
      signatureLine := some (String.ofList s.chars) }

/-! ## What the patterns make of the lines -/

/-- Around the only opening parenthesis of a line there is no other one. -/
theorem notMem_of_count_eq_one {xs ys : List Char} (h : (xs ++ '(' :: ys).count '(' = 1) :
    '(' ∉ xs ∧ '(' ∉ ys := by
  rw [List.count_append, List.count_cons_self] at h
  exact ⟨List.count_eq_zero.mp (by omega), List.count_eq_zero.mp (by omega)⟩

/-- A cut after the last character of one kind can be made in one way only. -/
theorem cut_unique_right {q : Char → Bool} {xs xs' ys ys' : List Char} {c c' : Char}
    (h : xs ++ c :: ys = xs' ++ c' :: ys') (hys : ∀ a ∈ ys, q a = true)
    (hys' : ∀ a ∈ ys', q a = true) (hc : q c = false) (hc' : q c' = false) : ys = ys' := by
  have hreverse := congrArg List.reverse h
  simp only [List.reverse_append, List.reverse_cons, List.append_assoc, List.singleton_append]
    at hreverse
  have hleft := (cut_unique_left hreverse (by simpa using hys) (by simpa using hys') hc hc').1
  exact List.reverse_inj.mp hleft

/-- A piece without parentheses holds no opening one. -/
theorem count_eq_zero_of_not_isParenthesis {l : List Char} (h : ∀ c ∈ l, ¬ IsParenthesis c) :
    l.count '(' = 0 :=
  List.count_eq_zero.mpr fun hmem => h _ hmem (.inl rfl)

/-- Blanks are no opening parentheses. -/
theorem count_eq_zero_of_isBlank {l : List Char} (h : ∀ c ∈ l, isBlank c = true) :
    l.count '(' = 0 :=
  List.count_eq_zero.mpr fun hmem => absurd (h _ hmem) (by decide)

/-- With arguments in parentheses and none elsewhere, a line has a single opening one. -/
theorem count_eq_one_of_arguments {start arguments after : List Char} (hstart : start.count '(' = 0)
    (harguments : ∀ c ∈ arguments, ¬ IsParenthesis c) (hafter : ∀ c ∈ after, ¬ IsParenthesis c) :
    (start ++ '(' :: (arguments ++ ')' :: (after ++ [';']))).count '(' = 1 := by
  rw [List.count_append, List.count_cons_self, List.count_append,
    List.count_cons_of_ne (by decide), List.count_append, hstart,
    count_eq_zero_of_not_isParenthesis harguments, count_eq_zero_of_not_isParenthesis hafter]
  rfl

theorem DeclarationLine.count_chars (d : DeclarationLine) : d.chars.count '(' = 1 := by
  have hname := count_eq_zero_of_not_isParenthesis fun c hc => (d.name_chars c hc).2.2
  have hline : d.chars = (d.before ++ (d.gap ++ d.name)) ++
      '(' :: (d.arguments ++ ')' :: (d.after ++ [';'])) := by
    rw [chars, List.append_assoc, List.append_assoc]
  rw [hline]
  refine count_eq_one_of_arguments ?_ d.arguments_chars d.after_chars
  rw [List.count_append, List.count_append, hname, count_eq_zero_of_isBlank d.gap_chars,
    count_eq_zero_of_not_isParenthesis d.before_chars]

theorem SignatureLine.count_chars (s : SignatureLine) : s.chars.count '(' = 1 := by
  have hdescriptor : s.descriptor.count '(' = 0 :=
    List.count_eq_zero.mpr fun hmem => (s.descriptor_chars _ hmem).1 rfl
  rw [chars, signature, List.count_append, List.count_append, List.count_append,
    List.count_cons_self, count_eq_zero_of_isBlank s.start_chars,
    count_eq_zero_of_isBlank s.gap_chars, hdescriptor]
  rfl

/-- The parts of a declaration cut it at the last blank before the name. -/
theorem DeclarationLine.cut (d : DeclarationLine) :
    DeclarationCut d.chars (d.before ++ d.gap.dropLast) (d.gap.getLast d.gap_ne_nil) d.name
      ('(' :: (d.arguments ++ ')' :: (d.after ++ [';']))) where
  line_eq := by
    have hgap := List.dropLast_concat_getLast d.gap_ne_nil
    rw [chars, List.append_assoc, ← List.singleton_append (l := d.name ++ _),
      ← List.append_assoc d.gap.dropLast, hgap]
  gap_blank := d.gap_chars _ (List.getLast_mem d.gap_ne_nil)
  name_ne_nil := d.name_ne_nil
  name_chars c hc := by
    obtain ⟨hblank, hdot, hparenthesis⟩ := d.name_chars c hc
    exact ⟨hdot, hblank, fun he => hparenthesis (.inl he)⟩
  arguments := ⟨d.arguments, d.after, rfl, fun c hc =>
    ⟨fun he => d.after_chars c hc (.inl he), fun he => d.after_chars c hc (.inr he)⟩⟩

/-- Up to its only opening parenthesis a line is what stands in front of it. -/
theorem takeWhile_of_count_eq_one {line start rest : List Char} (h : line = start ++ '(' :: rest)
    (hcount : line.count '(' = 1) : line.takeWhile (· != '(') = start := by
  subst h
  have hstart : ∀ c ∈ start, (c != '(') = true := by
    intro c hc
    have hne : c ≠ '(' := fun he => (notMem_of_count_eq_one hcount).1 (he ▸ hc)
    simpa using hne
  rw [List.takeWhile_append_of_pos hstart, List.takeWhile_cons_of_neg (by decide), List.append_nil]

/-- In front of the only opening parenthesis of a line stands the name of every cut. -/
theorem DeclarationCut.takeWhile_eq {line before name after : List Char} {gap : Char}
    (hcut : DeclarationCut line before gap name after) (hcount : line.count '(' = 1) :
    line.takeWhile (· != '(') = before ++ gap :: name := by
  obtain ⟨arguments, clause, hafter, -⟩ := hcut.arguments
  have hline : line = (before ++ gap :: name) ++ '(' :: (arguments ++ ')' :: (clause ++ [';'])) := by
    rw [hcut.line_eq, hafter, List.append_assoc, List.cons_append]
  exact takeWhile_of_count_eq_one hline hcount

/-- Of a line with a single opening parenthesis at most one name can be cut out. -/
theorem DeclarationCut.name_unique {line before before' name name' after after' : List Char}
    {gap gap' : Char} (hcut : DeclarationCut line before gap name after)
    (hcut' : DeclarationCut line before' gap' name' after') (hcount : line.count '(' = 1) :
    name = name' := by
  have hsame := (hcut.takeWhile_eq hcount).symm.trans (hcut'.takeWhile_eq hcount)
  refine cut_unique_right (q := fun c => !isBlank c) hsame (fun c hc => ?_) (fun c hc => ?_) ?_ ?_
  · rw [(hcut.name_chars c hc).2.1]
    rfl
  · rw [(hcut'.name_chars c hc).2.1]
    rfl
  · rw [hcut.gap_blank]
    rfl
  · rw [hcut'.gap_blank]
    rfl

/-- The parts of a signature line cut it. -/
theorem SignatureLine.cut (s : SignatureLine) :
    SignatureCut s.chars s.start s.gap s.signature :=
  ⟨rfl, s.start_chars, s.gap_ne_nil, s.gap_chars, List.cons_ne_nil _ _⟩

/-- A signature line is no declaration, as a blank stands in front of its parenthesis. -/
theorem SignatureLine.not_declarationCut (s : SignatureLine) {before name after : List Char}
    {gap : Char} : ¬ DeclarationCut s.chars before gap name after := by
  intro hcut
  have hline : s.chars = (s.start ++ "Signature:".toList ++ s.gap) ++ '(' :: s.descriptor := by
    rw [chars, signature, List.append_assoc, List.append_assoc]
  have hsame := (hcut.takeWhile_eq s.count_chars).symm.trans
    (takeWhile_of_count_eq_one hline s.count_chars)
  have hlast : name.getLast hcut.name_ne_nil = s.gap.getLast s.gap_ne_nil := by
    have hends := congrArg List.getLast? hsame
    rw [← List.singleton_append, List.getLast?_append, List.getLast?_append, List.getLast?_append,
      List.getLast?_eq_some_getLast s.gap_ne_nil,
      List.getLast?_eq_some_getLast hcut.name_ne_nil] at hends
    exact Option.some.inj hends
  have hblank := s.gap_chars _ (List.getLast_mem s.gap_ne_nil)
  rw [← hlast, (hcut.name_chars _ (List.getLast_mem hcut.name_ne_nil)).2.1] at hblank
  cases hblank

/-- What begins like a signature begins with a blank or with the word for signatures. -/
theorem BeginsAsSignature.not_beginsAsError {line : List Char} (h : BeginsAsSignature line) :
    ¬ BeginsAsError line := by
  obtain ⟨start, c, rest, hstart, -, rfl⟩ := h
  rintro ⟨tail, htail⟩
  have hhead := congrArg List.head? htail
  cases start with
  | nil =>
    simp at hhead
  | cons b start =>
    obtain rfl : 'E' = b := by
      simpa using hhead
    cases hstart 'E' List.mem_cons_self

/-- A line that is cut as a signature begins like one. -/
theorem SignatureCut.beginsAsSignature {line start gap signature : List Char}
    (hcut : SignatureCut line start gap signature) : BeginsAsSignature line := by
  obtain ⟨c, rest, rfl⟩ := List.exists_cons_of_ne_nil hcut.gap_ne_nil
  exact ⟨start, c, rest ++ signature, hcut.start_blank, hcut.gap_blank c List.mem_cons_self,
    hcut.line_eq⟩

/-- The longest blank in front of the descriptor is the one up to its parenthesis. -/
theorem SignatureLine.signature_unique (s : SignatureLine) {start gap signature : List Char}
    (hcut : SignatureCut s.chars start gap signature) (hlonger : s.gap.length ≤ gap.length) :
    signature = s.signature := by
  obtain ⟨-, hsame⟩ := hcut.unique s.cut
  rcases List.append_eq_append_iff.mp hsame with ⟨rest, hgap, hsignature⟩ | ⟨rest, hgap, hsignature⟩
  · have hrest : rest = [] := by
      rw [hgap, List.length_append] at hlonger
      exact List.length_eq_zero_iff.mp (by omega)
    rw [hsignature, hrest, List.nil_append]
  · cases rest with
    | nil => exact hsignature.symm
    | cons c rest =>
      obtain rfl : '(' = c := (List.cons.inj hsignature).1
      have hblank := hcut.gap_blank '(' (by simp [hgap])
      cases hblank

/-! ## What a line is not -/

section Absence

variable {chars : List Char}

/-- A line that does not begin like an error is none. -/
theorem not_isError_of_not_beginsAsError (hline : '\n' ∉ chars) (h : ¬ BeginsAsError chars) :
    standardPatterns.isError (String.ofList chars) = false := by
  have htoList : (String.ofList chars).toList = chars := String.toList_ofList
  refine Bool.eq_false_iff.mpr fun herror => h ?_
  have hword := (isError_standard_iff (by rwa [htoList])).mp herror
  rwa [htoList] at hword

/-- A line that cannot be cut as a declaration is none. -/
theorem name_match?_eq_none (hline : '\n' ∉ chars)
    (h : ∀ before gap name after, ¬ DeclarationCut chars before gap name after) :
    standardPatterns.name.match? (String.ofList chars) = none := by
  refine Option.eq_none_iff_forall_ne_some.mpr fun m hm => ?_
  obtain ⟨before, gap, name, after, hcut, -, -⟩ :=
    name_of_match (by rwa [String.toList_ofList]) hm
  rw [String.toList_ofList] at hcut
  exact h before gap name after hcut

/-- A line that does not begin like a signature is none. -/
theorem signature_match?_eq_none (hline : '\n' ∉ chars) (h : ¬ BeginsAsSignature chars) :
    standardPatterns.signature.match? (String.ofList chars) = none := by
  refine Option.eq_none_iff_forall_ne_some.mpr fun m hm => h ?_
  obtain ⟨start, gap, signature, hcut, -, -⟩ :=
    signature_of_match (by rwa [String.toList_ofList]) hm
  rw [String.toList_ofList] at hcut
  exact hcut.beginsAsSignature

end Absence

/-! ## What the lines are -/

/-- What is made of a line of noise: nothing. -/
theorem sort_noise {line : String} (h : IsNoise line) :
    standardPatterns.sort line = ⟨false, none, none⟩ := by
  have hname : standardPatterns.name.match? line = none := by
    simpa [LinePatterns.isDeclaration] using h.not_declaration
  have hsignature : standardPatterns.signature.match? line = none := by
    simpa [LinePatterns.isSignature] using h.not_signature
  have herror : (standardPatterns.error.match? line).isSome = false := h.not_error
  rw [LinePatterns.sort, hname, hsignature, herror]
  rfl

/-- What is made of a declaration: its name is captured. -/
theorem sort_declaration (d : DeclarationLine) (hline : '\n' ∉ d.chars)
    (hError : ¬ BeginsAsError d.chars) (hSignature : ¬ BeginsAsSignature d.chars) :
    standardPatterns.sort (String.ofList d.chars) =
      ⟨false, some (some (String.ofList d.name)), none⟩ := by
  have htoList : (String.ofList d.chars).toList = d.chars := String.toList_ofList
  have herror : (standardPatterns.error.match? (String.ofList d.chars)).isSome = false :=
    not_isError_of_not_beginsAsError hline hError
  have hsignature : standardPatterns.signature.match? (String.ofList d.chars) = none :=
    signature_match?_eq_none hline hSignature
  have hname : (standardPatterns.name.match? (String.ofList d.chars)).map (·.group? 1) =
      some (some (String.ofList d.name)) := by
    have hcut := d.cut
    rw [← htoList] at hline hcut
    obtain ⟨m, hm⟩ := Option.isSome_iff_exists.mp (isDeclaration_of_cut hline hcut)
    obtain ⟨before, gap, name, after, hcut', hgroup, -⟩ := name_of_match hline hm
    rw [htoList] at hcut'
    rw [hm, Option.map_some, hgroup, hcut'.name_unique d.cut d.count_chars]
  rw [LinePatterns.sort, herror, hname, hsignature]
  rfl

/-- What is made of a signature line: its signature is captured, and nothing else. -/
theorem sort_signature (s : SignatureLine) (hline : '\n' ∉ s.chars) :
    standardPatterns.sort (String.ofList s.chars) =
      ⟨false, none, some (some (String.ofList s.signature))⟩ := by
  have htoList : (String.ofList s.chars).toList = s.chars := String.toList_ofList
  have herror : (standardPatterns.error.match? (String.ofList s.chars)).isSome = false :=
    not_isError_of_not_beginsAsError hline s.cut.beginsAsSignature.not_beginsAsError
  have hname : standardPatterns.name.match? (String.ofList s.chars) = none :=
    name_match?_eq_none hline fun _ _ _ _ => s.not_declarationCut
  have hsignature : (standardPatterns.signature.match? (String.ofList s.chars)).map (·.group? 1) =
      some (some (String.ofList s.signature)) := by
    have hcut := s.cut
    rw [← htoList] at hline hcut
    obtain ⟨m, hm⟩ := Option.isSome_iff_exists.mp (isSignature_of_cut hline hcut)
    obtain ⟨start, gap, signature, hcut', hgroup, hlonger⟩ := signature_of_match hline hm
    rw [htoList] at hcut'
    rw [hm, Option.map_some, hgroup, s.signature_unique hcut' (hlonger _ _ _ hcut)]
  rw [LinePatterns.sort, herror, hname, hsignature]
  rfl

/-! ## Reading the parts -/

/-- Noise is passed over, whether a declaration waits or not. -/
theorem readFrom_noise {lines : List String} (h : ∀ line ∈ lines, IsNoise line)
    (rest : List String) (n : Nat) (pending : Option Declaration) :
    readFrom standardPatterns.sort n pending (lines ++ rest) =
      readFrom standardPatterns.sort (n + lines.length) pending rest := by
  induction lines generalizing n with
  | nil => rfl
  | cons line lines ih =>
    have hnoise : step (standardPatterns.sort line) line pending = ([], .ok pending) := by
      rw [sort_noise (h line List.mem_cons_self)]
      rfl
    rw [List.cons_append, readFrom_cons_ok _ hnoise,
      ih (fun other hother => h other (List.mem_cons_of_mem _ hother))]
    simp only [List.map_nil, List.nil_append, List.length_cons, Nat.add_assoc, Nat.add_comm 1]

/-- The lines of a part leave nothing that waits, and complete the record of the part. -/
theorem readFrom_part (part : ReportPart) (hclean : ∀ line ∈ part.lines, '\n' ∉ line.toList)
    (rest : List String) (n : Nat) :
    ∃ last events, readFrom standardPatterns.sort n none (part.lines ++ rest) =
        { readFrom standardPatterns.sort last none rest with
          events := events ++ (readFrom standardPatterns.sort last none rest).events } ∧
      events.filterMap (fun entry => entry.2.record?) = part.record?.toList := by
  cases part with
  | noise line hnoise =>
    have hnoise : ∀ other ∈ [line], IsNoise other := by
      simpa using hnoise
    exact ⟨n + 1, [], readFrom_noise hnoise rest n none, rfl⟩
  | method d hError hSignature between hbetween s =>
    have hd : '\n' ∉ d.chars := by
      simpa using hclean (String.ofList d.chars) List.mem_cons_self
    have hs : '\n' ∉ s.chars := by
      simpa using hclean (String.ofList s.chars) (by simp [ReportPart.lines])
    have hdeclaration : step (standardPatterns.sort (String.ofList d.chars))
        (String.ofList d.chars) none = ([], .ok (some d.declaration)) := by
      rw [sort_declaration d hd hError hSignature]
      rfl
    have hsignature : step (standardPatterns.sort (String.ofList s.chars)) (String.ofList s.chars)
        (some d.declaration) = ([.completed (d.declaration.complete
          (some (String.ofList s.signature)) (String.ofList s.chars))], .ok none) := by
      rw [sort_signature s hs]
      rfl
    refine ⟨n + 1 + between.length + 1, [(n + 1 + between.length + 1, .completed
      (d.declaration.complete (some (String.ofList s.signature)) (String.ofList s.chars)))], ?_, rfl⟩
    rw [ReportPart.lines, List.cons_append, List.cons_append, List.append_assoc, List.cons_append,
      List.nil_append, readFrom_cons_ok _ hdeclaration, readFrom_noise hbetween, readFrom_cons_ok _ hsignature]
    rfl

/-- A report that consists of parts is read to its end, and gives the records of its parts. -/
theorem readFrom_parts (parts : List ReportPart)
    (hclean : ∀ line ∈ parts.flatMap ReportPart.lines, '\n' ∉ line.toList) (n : Nat) :
    (readFrom standardPatterns.sort n none (parts.flatMap ReportPart.lines)).fault = none ∧
      (readFrom standardPatterns.sort n none (parts.flatMap ReportPart.lines)).records =
        parts.filterMap ReportPart.record? := by
  induction parts generalizing n with
  | nil => exact ⟨rfl, rfl⟩
  | cons part parts ih =>
    rw [List.flatMap_cons] at hclean ⊢
    obtain ⟨last, events, hread, hrecords⟩ := readFrom_part part
      (fun line hline => hclean line (List.mem_append_left _ hline))
      (parts.flatMap ReportPart.lines) n
    obtain ⟨hfault, hrest⟩ := ih (fun line hline => hclean line (List.mem_append_right _ hline)) last
    rw [hread]
    refine ⟨hfault, ?_⟩
    rw [records_eq] at hrest ⊢
    rw [List.filterMap_append, hrecords, hrest, List.filterMap_cons]
    cases part.record? <;> rfl

/-! ## The round trip -/

/-- **Round trip.**  A report whose lines are those of methods and of noise gives the header of the
methods, in their order, whatever its lines are ended by. -/
theorem generate_of_parts (className : String) (parts : List ReportPart) {text : String}
    (h : WrittenAs text.toList (parts.flatMap ReportPart.lines)) :
    Header.generate { className := className } (Text.reportLines text) =
      .ok (Header.render className (parts.filterMap ReportPart.record?)) := by
  obtain ⟨hfault, hrecords⟩ := readFrom_parts parts (fun line hline => (h.isLine line hline).2) 0
  have hresult : (read standardPatterns (parts.flatMap ReportPart.lines)).result =
      .ok (parts.filterMap ReportPart.record?) := by
    rw [Transcript.result, read, hfault, hrecords]
  have hcollect : Header.collect { className := className } (parts.flatMap ReportPart.lines) =
      .ok (parts.filterMap ReportPart.record?) := by
    rw [Header.collect, patterns_of_className]
    exact congrArg (Except.mapError Header.GenerateError.report) hresult
  rw [Text.reportLines_of_writtenAs h, Header.generate, hcollect]
  rfl

/-- A test of all characters of a text is a proof about each of them. -/
theorem forall_mem_of_all {p : Char → Prop} [DecidablePred p] {cs : List Char}
    (h : cs.all (fun c => decide (p c)) = true) : ∀ c ∈ cs, p c := by
  intro c hc
  exact of_decide_eq_true (List.all_eq_true.mp h c hc)

/-- The declaration of a method without blanks around its arguments. -/
def mainDeclaration : DeclarationLine where
  before := "void".toList
  gap := " ".toList
  name := "main".toList
  arguments := "int".toList
  after := []
  before_chars := forall_mem_of_all (by decide +kernel)
  gap_ne_nil := by decide +kernel
  gap_chars := forall_mem_of_all (by decide +kernel)
  name_ne_nil := by decide +kernel
  name_chars := forall_mem_of_all (by decide +kernel)
  arguments_chars := forall_mem_of_all (by decide +kernel)
  after_chars := forall_mem_of_all (by decide +kernel)

/-- The signature of the same method. -/
def mainSignature : SignatureLine where
  start := "  ".toList
  gap := " ".toList
  descriptor := "I)V".toList
  start_chars := forall_mem_of_all (by decide +kernel)
  gap_ne_nil := by decide +kernel
  gap_chars := forall_mem_of_all (by decide +kernel)
  descriptor_chars := forall_mem_of_all (by decide +kernel)

/-- A signature begins with a blank or with the first letter of its word. -/
theorem not_beginsAsSignature_of_head {c : Char} (rest : List Char) (hblank : isBlank c = false)
    (hletter : c ≠ 'S') : ¬ BeginsAsSignature (c :: rest) := by
  rintro ⟨start, c', rest', hstart, -, h⟩
  cases start with
  | nil => exact hletter (List.cons.inj h).1
  | cons b start =>
    obtain rfl : c = b := (List.cons.inj h).1
    rw [hstart c List.mem_cons_self] at hblank
    cases hblank

theorem mainDeclaration_not_beginsAsSignature : ¬ BeginsAsSignature mainDeclaration.chars :=
  not_beginsAsSignature_of_head _ (by decide) (by decide)

/-- A report with this method and with noise around it. -/
def mainReport : List ReportPart :=
  [.noise "// of Main" ⟨by decide +kernel, by decide +kernel, by decide +kernel⟩,
    .method mainDeclaration (by decide +kernel) mainDeclaration_not_beginsAsSignature [] (by simp)
      mainSignature,
    .noise "\x7d" ⟨by decide +kernel, by decide +kernel, by decide +kernel⟩]

/-- The lines of this report, ended in three ways. -/
theorem generate_of_parts_mainReport :
    WrittenAs "// of Main\r\nvoid main(int);\r  Signature: (I)V\n\x7d".toList
        (mainReport.flatMap ReportPart.lines) ∧
      Header.generate { className := "Main" }
          (Text.reportLines "// of Main\r\nvoid main(int);\r  Signature: (I)V\n\x7d") =
        .ok (Header.render "Main" [{
          declarationLine := "void main(int);"
          name := "main"
          macroStem := "MAIN"
          signature := some "(I)V"
          signatureLine := some "  Signature: (I)V" }]) := by
  have hwritten := WrittenAs.terminated "// of Main" .pair (by decide)
    (.terminated "void main(int);" .carriageReturn (by decide)
      (.terminated "  Signature: (I)V" .lineFeed (by decide)
        (.unterminated "\x7d" (by decide) (by decide)) (by decide)) (by decide)) (by decide)
  have hlines : mainReport.flatMap ReportPart.lines =
      ["// of Main", "void main(int);", "  Signature: (I)V", "\x7d"] := by decide +kernel
  have hrecords : mainReport.filterMap ReportPart.record? = [{
      declarationLine := "void main(int);"
      name := "main"
      macroStem := "MAIN"
      signature := some "(I)V"
      signatureLine := some "  Signature: (I)V" }] := by decide +kernel
  rw [← hlines] at hwritten
  rw [← hrecords]
  exact ⟨hwritten, generate_of_parts "Main" mainReport hwritten⟩

end MethodMacros.Report
