import MethodMacros.Proofs.Report.Refusals
import MethodMacros.Proofs.Report.RoundTrip
import Mathlib.Data.List.TakeWhile

/-!
# Reports of whole classes

The report of a class lists more than its methods: constructors, which are printed with the package
of the class, and fields.  The pattern for declarations passes them over, a constructor because of
the dot in front of its name and a field because it has no arguments.  But each of them is followed
by a signature of its own, which the pattern for signatures accepts, and no declaration waits for it.

So such a report cannot be read to its end.  It fails at the signature of its first member that is no
method, and up to there it gives the records of its methods; no method gets the signature of another
member.  The main statement, `generate_of_members`, says this of all orders of members.
-/

namespace MethodMacros.Report

open Text (isBlank WrittenAs)

/-! ## Members that are no methods -/

/-- The parts of a line that declares a constructor: what stands before the name of the class, which
ends in its package, the name, the arguments, and what stands behind them. -/
structure ConstructorLine where
  before : List Char
  name : List Char
  arguments : List Char
  after : List Char
  before_chars : ∀ c ∈ before, ¬ IsParenthesis c
  name_chars : ∀ c ∈ name, isBlank c = false ∧ c ≠ '.' ∧ ¬ IsParenthesis c
  arguments_chars : ∀ c ∈ arguments, ¬ IsParenthesis c
  after_chars : ∀ c ∈ after, ¬ IsParenthesis c

/-- The characters of a constructor. -/
def ConstructorLine.chars (m : ConstructorLine) : List Char :=
  m.before ++ '.' :: (m.name ++ '(' :: (m.arguments ++ ')' :: (m.after ++ [';'])))

/-- The parts of a line that declares a field: no parentheses, and a semicolon. -/
structure FieldLine where
  before : List Char
  before_chars : ∀ c ∈ before, ¬ IsParenthesis c

/-- The characters of a field. -/
def FieldLine.chars (m : FieldLine) : List Char := m.before ++ [';']

/-- The parts of a line that gives the signature of a field, which has no opening parenthesis. -/
structure FieldSignatureLine where
  start : List Char
  gap : List Char
  descriptor : List Char
  start_chars : ∀ c ∈ start, isBlank c = true
  gap_ne_nil : gap ≠ []
  gap_chars : ∀ c ∈ gap, isBlank c = true
  descriptor_ne_nil : descriptor ≠ []
  descriptor_chars : ∀ c ∈ descriptor, c ≠ '(' ∧ isBlank c = false

/-- The characters of a line with the signature of a field. -/
def FieldSignatureLine.chars (s : FieldSignatureLine) : List Char :=
  s.start ++ ("Signature:".toList ++ (s.gap ++ s.descriptor))

/-- A part of the report of a class: one that also reports of methods have, or a member that is no
method, with its signature. -/
inductive ClassPart where
  | ordinary (part : ReportPart)
  | constructor (m : ConstructorLine) (hError : ¬ BeginsAsError m.chars)
      (hSignature : ¬ BeginsAsSignature m.chars) (s : SignatureLine)
  | field (m : FieldLine) (hError : ¬ BeginsAsError m.chars)
      (hSignature : ¬ BeginsAsSignature m.chars) (s : FieldSignatureLine)

/-- The lines of a part. -/
def ClassPart.lines : ClassPart → List String
  | .ordinary part => part.lines
  | .constructor m _ _ s => [String.ofList m.chars, String.ofList s.chars]
  | .field m _ _ s => [String.ofList m.chars, String.ofList s.chars]

/-- The record that a part is to give. -/
def ClassPart.record? : ClassPart → Option MethodRecord
  | .ordinary part => part.record?
  | .constructor .. | .field .. => none

/-- The line with the signature of a member that is no method. -/
def ClassPart.foreignSignature? : ClassPart → Option String
  | .ordinary _ => none
  | .constructor _ _ _ s => some (String.ofList s.chars)
  | .field _ _ _ s => some (String.ofList s.chars)

/-! ## What the patterns make of them -/

/-- A declaration has an opening parenthesis. -/
theorem not_declarationCut_of_not_mem {line before name after : List Char} {gap : Char}
    (h : '(' ∉ line) : ¬ DeclarationCut line before gap name after := by
  intro hcut
  obtain ⟨arguments, clause, hafter, -⟩ := hcut.arguments
  exact h (by simp [hcut.line_eq, hafter])

theorem ConstructorLine.chars_eq (m : ConstructorLine) : m.chars =
    (m.before ++ '.' :: m.name) ++ '(' :: (m.arguments ++ ')' :: (m.after ++ [';'])) := by
  rw [chars, List.append_assoc, List.cons_append]

theorem ConstructorLine.count_chars (m : ConstructorLine) : m.chars.count '(' = 1 := by
  have hname := count_eq_zero_of_not_isParenthesis fun c hc => (m.name_chars c hc).2.2
  rw [m.chars_eq]
  refine count_eq_one_of_arguments ?_ m.arguments_chars m.after_chars
  rw [List.count_append, List.count_cons_of_ne (by decide), hname,
    count_eq_zero_of_not_isParenthesis m.before_chars]

/-- A constructor is no declaration of a method, as a dot and not a blank stands in front of its
name. -/
theorem ConstructorLine.not_declarationCut (m : ConstructorLine) {before name after : List Char}
    {gap : Char} : ¬ DeclarationCut m.chars before gap name after := by
  intro hcut
  have hsame := (hcut.takeWhile_eq m.count_chars).symm.trans
    (takeWhile_of_count_eq_one m.chars_eq m.count_chars)
  -- Both names are what follows the last dot or blank, so the same character stands before both.
  have hname : name = m.name := by
    refine cut_unique_right (q := fun c => !isBlank c && c != '.') hsame (fun c hc => ?_)
      (fun c hc => ?_) ?_ rfl
    · obtain ⟨hdot, hblank, -⟩ := hcut.name_chars c hc
      simp [hdot, hblank]
    · obtain ⟨hblank, hdot, -⟩ := m.name_chars c hc
      simp [hdot, hblank]
    · simp [hcut.gap_blank]
  rw [hname] at hsame
  obtain rfl : gap = '.' := (List.cons.inj (List.append_inj' hsame rfl).2).1
  cases hcut.gap_blank

theorem FieldLine.not_mem_chars (m : FieldLine) : '(' ∉ m.chars := by
  intro h
  rcases List.mem_append.mp h with h | h
  · exact m.before_chars _ h (.inl rfl)
  · exact absurd h (by decide)

theorem FieldSignatureLine.not_mem_chars (s : FieldSignatureLine) : '(' ∉ s.chars := by
  have hblank : ∀ l : List Char, (∀ c ∈ l, isBlank c = true) → '(' ∉ l :=
    fun l hl h => absurd (hl _ h) (by decide)
  have hstart := hblank s.start s.start_chars
  have hgap := hblank s.gap s.gap_chars
  have hdescriptor : '(' ∉ s.descriptor := fun h => (s.descriptor_chars _ h).1 rfl
  simp [chars, hstart, hgap, hdescriptor]

/-- The parts of the signature of a field cut its line. -/
theorem FieldSignatureLine.cut (s : FieldSignatureLine) :
    SignatureCut s.chars s.start s.gap s.descriptor :=
  ⟨rfl, s.start_chars, s.gap_ne_nil, s.gap_chars, s.descriptor_ne_nil⟩

/-- A line that begins neither like an error nor like a signature, and cannot be cut as a
declaration, is noise. -/
theorem isNoise_of_not {chars : List Char} (hline : '\n' ∉ chars) (hError : ¬ BeginsAsError chars)
    (hcut : ∀ before gap name after, ¬ DeclarationCut chars before gap name after)
    (hSignature : ¬ BeginsAsSignature chars) : IsNoise (String.ofList chars) where
  not_error := not_isError_of_not_beginsAsError hline hError
  not_declaration := by
    rw [LinePatterns.isDeclaration, name_match?_eq_none hline hcut]
    rfl
  not_signature := by
    rw [LinePatterns.isSignature, signature_match?_eq_none hline hSignature]
    rfl

/-- A line that only the pattern for signatures matches. -/
def IsBareSignature (line : String) : Prop :=
  ∃ captured, standardPatterns.sort line = ⟨false, none, some captured⟩

theorem SignatureLine.isBareSignature (s : SignatureLine) (hline : '\n' ∉ s.chars) :
    IsBareSignature (String.ofList s.chars) :=
  ⟨_, sort_signature s hline⟩

theorem FieldSignatureLine.isBareSignature (s : FieldSignatureLine) (hline : '\n' ∉ s.chars) :
    IsBareSignature (String.ofList s.chars) := by
  have herror : (standardPatterns.error.match? (String.ofList s.chars)).isSome = false :=
    not_isError_of_not_beginsAsError hline s.cut.beginsAsSignature.not_beginsAsError
  have hname : standardPatterns.name.match? (String.ofList s.chars) = none :=
    name_match?_eq_none hline fun _ _ _ _ => not_declarationCut_of_not_mem s.not_mem_chars
  have htoList : (String.ofList s.chars).toList = s.chars := String.toList_ofList
  have hcut := s.cut
  rw [← htoList] at hline hcut
  obtain ⟨m, hm⟩ := Option.isSome_iff_exists.mp (isSignature_of_cut hline hcut)
  exact ⟨m.group? 1, by rw [LinePatterns.sort, herror, hname, hm]; rfl⟩

/-! ## Reading the members -/

/-- When nothing waits, noise and then a signature end the reading at the signature. -/
theorem readFrom_foreign {declared signed : String} (hdeclared : IsNoise declared)
    (hsigned : IsBareSignature signed) (rest : List String) (n : Nat) :
    readFrom standardPatterns.sort n none (declared :: signed :: rest) =
      ⟨n + 1 + 1, [], some (.orphanSignature signed)⟩ := by
  obtain ⟨captured, hsort⟩ := hsigned
  have hdeclared : ∀ line ∈ [declared], IsNoise line := by
    simpa using hdeclared
  have horphan : step (standardPatterns.sort signed) signed none =
      ([], .error (.orphanSignature signed)) := by
    rw [hsort]
    rfl
  exact (readFrom_noise hdeclared (signed :: rest) n none).trans (readFrom_cons_error rest horphan)

/-- A member that is no method ends the reading. -/
theorem readFrom_of_foreignSignature? {part : ClassPart} {signed : String}
    (hclean : ∀ line ∈ part.lines, '\n' ∉ line.toList)
    (hforeign : part.foreignSignature? = some signed) (rest : List String) (n : Nat) :
    readFrom standardPatterns.sort n none (part.lines ++ rest) =
      ⟨n + 1 + 1, [], some (.orphanSignature signed)⟩ := by
  cases part with
  | ordinary part => cases hforeign
  | constructor m hError hSignature s =>
    obtain rfl := Option.some.inj hforeign
    have hm : '\n' ∉ m.chars := by
      simpa using hclean (String.ofList m.chars) List.mem_cons_self
    have hs : '\n' ∉ s.chars := by
      simpa using hclean (String.ofList s.chars) (by simp [ClassPart.lines])
    have hnoise := isNoise_of_not hm hError (fun _ _ _ _ => m.not_declarationCut) hSignature
    exact readFrom_foreign hnoise (s.isBareSignature hs) rest n
  | field m hError hSignature s =>
    obtain rfl := Option.some.inj hforeign
    have hm : '\n' ∉ m.chars := by
      simpa using hclean (String.ofList m.chars) List.mem_cons_self
    have hs : '\n' ∉ s.chars := by
      simpa using hclean (String.ofList s.chars) (by simp [ClassPart.lines])
    have hnoise := isNoise_of_not hm hError
      (fun _ _ _ _ => not_declarationCut_of_not_mem m.not_mem_chars) hSignature
    exact readFrom_foreign hnoise (s.isBareSignature hs) rest n

/-- The reading of a class ends at its first member that is no method, with the records of the
methods in front of it. -/
theorem readFrom_members (members : List ClassPart)
    (hclean : ∀ line ∈ members.flatMap ClassPart.lines, '\n' ∉ line.toList) (n : Nat) :
    (readFrom standardPatterns.sort n none (members.flatMap ClassPart.lines)).fault =
        (members.findSome? ClassPart.foreignSignature?).map .orphanSignature ∧
      (readFrom standardPatterns.sort n none (members.flatMap ClassPart.lines)).records =
        (members.takeWhile (·.foreignSignature?.isNone)).filterMap ClassPart.record? := by
  induction members generalizing n with
  | nil => exact ⟨rfl, rfl⟩
  | cons part members ih =>
    rw [List.flatMap_cons] at hclean ⊢
    have hpart := fun line hline => hclean line (List.mem_append_left _ hline)
    have hmembers := fun line hline => hclean line (List.mem_append_right _ hline)
    cases part with
    | ordinary part =>
      obtain ⟨last, events, hread, hrecords⟩ := readFrom_part part hpart
        (members.flatMap ClassPart.lines) n
      obtain ⟨hfault, hrest⟩ := ih hmembers last
      have hlines : (ClassPart.ordinary part).lines = part.lines := rfl
      have hrecord : (ClassPart.ordinary part).record? = part.record? := rfl
      rw [hlines, hread]
      refine ⟨hfault, ?_⟩
      rw [records_eq] at hrest ⊢
      rw [List.filterMap_append, hrecords, hrest, List.takeWhile_cons_of_pos rfl,
        List.filterMap_cons, hrecord]
      cases part.record? <;> rfl
    -- What follows such a member is not read, so the induction ends here.
    | constructor _ _ _ s | field _ _ _ s =>
      rw [readFrom_of_foreignSignature? hpart rfl]
      exact ⟨rfl, rfl⟩

/-- **Reports of classes.**  A report of methods and other members, in any order, gives the header
of its methods only if there are no other members.  Else it fails at the signature of the first of
them, and the records that were read are those of the methods in front of it. -/
theorem generate_of_members (className : String) (members : List ClassPart) {text : String}
    (h : WrittenAs text.toList (members.flatMap ClassPart.lines)) :
    Header.generate { className := className } (Text.reportLines text) =
        (match members.findSome? ClassPart.foreignSignature? with
          | none => .ok (Header.render className (members.filterMap ClassPart.record?))
          | some line => .error (.report (.orphanSignature line))) ∧
      (read standardPatterns (Text.reportLines text)).records =
        (members.takeWhile (·.foreignSignature?.isNone)).filterMap ClassPart.record? := by
  obtain ⟨hfault, hrecords⟩ := readFrom_members members
    (fun line hline => (h.isLine line hline).2) 0
  have hcollect := collect_eq (patterns_of_className className) (members.flatMap ClassPart.lines)
  rw [Transcript.result, read, hfault] at hcollect
  rw [Text.reportLines_of_writtenAs h, Header.generate, hcollect]
  refine ⟨?_, hrecords⟩
  cases hforeign : members.findSome? ClassPart.foreignSignature? with
  | some line => rfl
  | none =>
    have hall : members.takeWhile (·.foreignSignature?.isNone) = members :=
      List.takeWhile_eq_self_iff.mpr fun part hpart =>
        Option.isNone_iff_eq_none.mpr (List.findSome?_eq_none_iff.mp hforeign part hpart)
    rw [Option.map_none, hrecords, hall]
    rfl

/-- The declaration of a constructor with the argument of that method. -/
def mainConstructor : ConstructorLine where
  before := "public a".toList
  name := "B".toList
  arguments := mainDeclaration.arguments
  after := mainDeclaration.after
  before_chars := forall_mem_of_all (by decide +kernel)
  name_chars := forall_mem_of_all (by decide +kernel)
  arguments_chars := mainDeclaration.arguments_chars
  after_chars := mainDeclaration.after_chars

/-- The declaration of a field. -/
def mainField : FieldLine where
  before := "int x".toList
  before_chars := forall_mem_of_all (by decide +kernel)

/-- The signature of the field, with the blanks of that of the method. -/
def mainFieldSignature : FieldSignatureLine where
  start := mainSignature.start
  gap := mainSignature.gap
  descriptor := "I".toList
  start_chars := mainSignature.start_chars
  gap_ne_nil := mainSignature.gap_ne_nil
  gap_chars := mainSignature.gap_chars
  descriptor_ne_nil := by decide +kernel
  descriptor_chars := forall_mem_of_all (by decide +kernel)

theorem mainDeclaration_not_beginsAsError : ¬ BeginsAsError mainDeclaration.chars := by
  decide +kernel

theorem isNoise_of_mem_nil : ∀ line ∈ ([] : List String), IsNoise line := by
  simp

/-- A class with a method, a constructor and a field. -/
def mainClass : List ClassPart :=
  [.ordinary (.method mainDeclaration mainDeclaration_not_beginsAsError
      mainDeclaration_not_beginsAsSignature [] isNoise_of_mem_nil mainSignature),
    .constructor mainConstructor (by decide +kernel)
      (not_beginsAsSignature_of_head _ (by decide) (by decide)) mainSignature,
    .field mainField (by decide +kernel)
      (not_beginsAsSignature_of_head _ (by decide) (by decide)) mainFieldSignature]

/-- Its report. -/
def mainClassText : String :=
  "void main(int);\n  Signature: (I)V\npublic a.B(int);\n  Signature: (I)V\nint x;\n  Signature: I\n"

theorem writtenAs_mainClassText :
    WrittenAs mainClassText.toList (mainClass.flatMap ClassPart.lines) := by
  have hlines : mainClass.flatMap ClassPart.lines = ["void main(int);", "  Signature: (I)V",
      "public a.B(int);", "  Signature: (I)V", "int x;", "  Signature: I"] := by
    decide +kernel
  have htext : mainClassText.toList = (mainClass.flatMap ClassPart.lines).flatMap
      fun line => line.toList ++ ['\n'] := by
    rw [hlines]
    decide +kernel
  rw [htext, hlines]
  exact Text.writtenAs_flatMap (by decide +kernel)

/-- The report of this class fails at the signature of the constructor, when the method has been
read. -/
theorem generate_of_members_mainClass :
    WrittenAs mainClassText.toList (mainClass.flatMap ClassPart.lines) ∧
      Header.generate { className := "a.B" } (Text.reportLines mainClassText) =
        .error (.report (.orphanSignature "  Signature: (I)V")) ∧
      (read standardPatterns (Text.reportLines mainClassText)).records = [{
        declarationLine := "void main(int);"
        name := "main"
        macroStem := "MAIN"
        signature := some "(I)V"
        signatureLine := some "  Signature: (I)V" }] := by
  obtain ⟨hgenerate, hrecords⟩ := generate_of_members "a.B" mainClass writtenAs_mainClassText
  have hforeign : mainClass.findSome? ClassPart.foreignSignature? = some "  Signature: (I)V" := by
    decide +kernel
  rw [hforeign] at hgenerate
  exact ⟨writtenAs_mainClassText, hgenerate, hrecords.trans (by decide +kernel)⟩

/-- Though the class has a method, its report gives no header. -/
theorem generate_mainClassText_ne_ok :
    WrittenAs mainClassText.toList (mainClass.flatMap ClassPart.lines) ∧
      mainClass.filterMap ClassPart.record? ≠ [] ∧
      ∀ header, Header.generate { className := "a.B" } (Text.reportLines mainClassText) ≠
        .ok header :=
  ⟨writtenAs_mainClassText, by decide +kernel, ne_ok_of_toOption (by decide +kernel)⟩

end MethodMacros.Report
