import MethodMacros.Proofs.Pattern.Literals
import MethodMacros.Proofs.Report.Steps
import MethodMacros.Proofs.Results

/-!
# The standard patterns

A configuration that names only a class has three patterns of its own.  Here they are read, and what
they match is said in terms of the line: where its blanks, its parentheses and its end are.  Lines
are assumed to hold no line feed, as the lines of a report do.

## The declaration with the last blank

A line can often be cut into a declaration in several ways.  The first run of the pattern is greedy,
so the name that is captured is the one of the cut with the longest beginning, and
`isDeclaration_standard_iff` and `name_of_match` say both: some cut exists, and the last one counts.
-/

namespace MethodMacros.Report

open Pattern (Node Shape Between atEnd blankShape)
open Text (isBlank)

/-! ## The trees -/

/-- What a name is made of: no dot, no blank and no opening parenthesis. -/
def nameShape : Shape := .oneOf true [.point '.'.toNat, .kind .blank false, .point '('.toNat]

/-- What stands behind the arguments: no parenthesis. -/
def clauseShape : Shape := .oneOf true [.point '('.toNat, .point ')'.toNat]

/-- The parts of the pattern for errors. -/
def errorNodes : List Node :=
  .anchor .textStart :: "ERROR:".toList.map .literal ++ [.longest 0 .any, .anchor .finalLineEnd]

/-- The parts of the pattern for declarations from the opening parenthesis on. -/
def argumentNodes : List Node :=
  [.literal '(', .longest 0 .any, .literal ')', .longest 0 clauseShape, .literal ';',
    .anchor .finalLineEnd]

/-- The parts of the pattern for declarations. -/
def nameNodes : List Node :=
  [.anchor .textStart, .longest 0 .any, .longest 1 blankShape, .group 1 (.longest 1 nameShape)] ++
    argumentNodes

/-- The parts of the pattern for signatures. -/
def signatureNodes : List Node :=
  .anchor .textStart :: .longest 0 blankShape :: "Signature:".toList.map .literal ++
    [.longest 1 blankShape, .group 1 (.longest 1 .any), .anchor .finalLineEnd]

/-- The patterns that are used unless others are asked for. -/
def standardPatterns : LinePatterns where
  error := ⟨0, .ofList errorNodes⟩
  name := ⟨1, .ofList nameNodes⟩
  signature := ⟨1, .ofList signatureNodes⟩

theorem read_errorPattern : Pattern.read "^ERROR:.*$" = .ok standardPatterns.error :=
  eq_ok_of_toOption (by decide +kernel)

theorem read_namePattern :
    Pattern.read "^.*\\s+([^.\\s(]+)\\(.*\\)[^()]*;$" = .ok standardPatterns.name :=
  eq_ok_of_toOption (by decide +kernel)

theorem read_signaturePattern :
    Pattern.read "^\\s*Signature:\\s+(.+)$" = .ok standardPatterns.signature :=
  eq_ok_of_toOption (by decide +kernel)

/-- A configuration that names only a class uses the standard patterns. -/
theorem patterns_of_className (className : String) :
    ({ className := className } : Config).patterns = .ok standardPatterns := by
  simp only [Config.patterns, readCapturing, readPattern, read_errorPattern, read_namePattern,
    read_signaturePattern]
  rfl

/-! ## Declarations -/

@[simp] theorem accepts_nameShape (c : Char) :
    nameShape.accepts {} c = true ↔ c ≠ '.' ∧ isBlank c = false ∧ c ≠ '(' := by
  rw [nameShape, Pattern.accepts_oneOf]
  simp only [List.any_cons, List.any_nil, Pattern.ClassItem.accepts, Pattern.Kind.accepts,
    Pattern.toNat_beq_toNat]
  simp

@[simp] theorem accepts_clauseShape (c : Char) :
    clauseShape.accepts {} c = true ↔ c ≠ '(' ∧ c ≠ ')' := by
  rw [clauseShape, Pattern.accepts_oneOf]
  simp only [List.any_cons, List.any_nil, Pattern.ClassItem.accepts, Pattern.toNat_beq_toNat]
  simp

/-- Any character of a text without line feeds can be passed over. -/
theorem accepts_any_of_mem {line : List Char} {c : Char} (hline : '\n' ∉ line) (hc : c ∈ line) :
    Shape.any.accepts {} c = true := by
  have hne : c ≠ '\n' := fun he => hline (he ▸ hc)
  simpa using hne

/-- What stands in a declaration from the opening parenthesis on: anything up to a last closing
parenthesis, and a semicolon at the end. -/
def IsArguments (after : List Char) : Prop :=
  ∃ arguments clause, after = '(' :: (arguments ++ ')' :: (clause ++ [';'])) ∧
    ∀ c ∈ clause, c ≠ '(' ∧ c ≠ ')'

/-- A line cut at a blank, the name after it and the opening parenthesis after that. -/
structure DeclarationCut (line before : List Char) (gap : Char) (name after : List Char) : Prop where
  line_eq : line = before ++ gap :: (name ++ after)
  gap_blank : isBlank gap = true
  name_ne_nil : name ≠ []
  name_chars : ∀ c ∈ name, c ≠ '.' ∧ isBlank c = false ∧ c ≠ '('
  arguments : IsArguments after

section Nodes

variable {text : Array Char} {s r : Pattern.Cursor} {before after : List Char}

theorem argumentNodes_eq_some (h : Between text s before after) (hline : '\n' ∉ after)
    (hr : (Node.ofList argumentNodes).matchAt text s (atEnd text) = some r) :
    IsArguments after ∧ r.opened = s.opened ∧ r.closed = s.closed := by
  rw [argumentNodes, Pattern.ofList_cons_matchAt] at hr
  obtain ⟨rest₁, rfl, hr⟩ := h.literal_eq_some.mp hr
  have h := h.move ['(']
  rw [Pattern.ofList_cons_matchAt] at hr
  obtain ⟨arguments, rest₂, rfl, -, -, hr, -⟩ := h.run_eq_some hr
  have h := h.move _
  rw [Pattern.ofList_cons_matchAt] at hr
  obtain ⟨rest₃, rfl, hr⟩ := h.literal_eq_some.mp hr
  have h := h.move [')']
  rw [Pattern.ofList_cons_matchAt] at hr
  obtain ⟨clause, rest₄, rfl, -, hclause, hr, -⟩ := h.run_eq_some hr
  have h := h.move _
  rw [Pattern.ofList_cons_matchAt] at hr
  obtain ⟨rest₅, rfl, hr⟩ := h.literal_eq_some.mp hr
  have h := h.move [';']
  have hline' : '\n' ∉ rest₅ := fun hmem => hline (by simp [hmem])
  obtain ⟨rfl, rfl⟩ := (h.final_eq_some hline').mp hr
  exact ⟨⟨arguments, clause, rfl, fun c hmem => (accepts_clauseShape c).mp (hclause c hmem)⟩,
    rfl, rfl⟩

theorem argumentNodes_isSome (h : Between text s before after) (hline : '\n' ∉ after)
    (harguments : IsArguments after) :
    ((Node.ofList argumentNodes).matchAt text s (atEnd text)).isSome = true := by
  obtain ⟨arguments, clause, rfl, hclause⟩ := harguments
  rw [argumentNodes, Pattern.ofList_cons_matchAt]
  refine h.literal_isSome_iff.mpr ⟨_, rfl, ?_⟩
  have h := h.move ['(']
  rw [Pattern.ofList_cons_matchAt]
  refine h.run_isSome_iff.mpr ⟨arguments, _, rfl, Nat.zero_le _,
    fun c hc => accepts_any_of_mem hline (by simp [hc]), ?_⟩
  have h := h.move arguments
  rw [Pattern.ofList_cons_matchAt]
  refine h.literal_isSome_iff.mpr ⟨_, rfl, ?_⟩
  have h := h.move [')']
  rw [Pattern.ofList_cons_matchAt]
  refine h.run_isSome_iff.mpr
    ⟨clause, _, rfl, Nat.zero_le _, fun c hc => (accepts_clauseShape c).mpr (hclause c hc), ?_⟩
  have h := h.move clause
  rw [Pattern.ofList_cons_matchAt]
  refine h.literal_isSome_iff.mpr ⟨_, rfl, ?_⟩
  have h := h.move [';']
  exact Option.isSome_iff_exists.mpr ⟨_, (h.final_eq_some (by simp)).mpr ⟨rfl, rfl⟩⟩

/-- From a blank on, a cut of the line can be matched. -/
theorem gapNodes_isSome {line name : List Char} {gap : Char}
    (hcut : DeclarationCut line before gap name after)
    (h : Between text s before (gap :: (name ++ after))) (hline : '\n' ∉ line) :
    ((Node.ofList (.longest 1 blankShape :: .group 1 (.longest 1 nameShape) :: argumentNodes)).matchAt
      text s (atEnd text)).isSome = true := by
  rw [Pattern.ofList_cons_matchAt]
  refine h.run_isSome_iff.mpr ⟨[gap], _, rfl, Nat.le_refl _, fun c hc => ?_, ?_⟩
  · obtain rfl := List.mem_singleton.mp hc
    simpa using hcut.gap_blank
  have h := (h.move [gap]).open 1
  rw [Pattern.ofList_cons_matchAt]
  refine h.run_isSome_iff.mpr ⟨name, _, rfl, List.length_pos_iff.mpr hcut.name_ne_nil,
    fun c hc => (accepts_nameShape c).mpr (hcut.name_chars c hc), ?_⟩
  have h := (h.move name).close 1
  have hafter : '\n' ∉ after := fun hmem => hline (by rw [hcut.line_eq]; simp [hmem])
  exact argumentNodes_isSome h hafter hcut.arguments

end Nodes

variable {line : String} {m : Pattern.Match}

/-- **What a declaration captures.**  A line that is matched is cut, the name of the cut is
captured, and no cut has a longer beginning. -/
theorem name_of_match (hline : '\n' ∉ line.toList)
    (hm : standardPatterns.name.match? line = some m) :
    ∃ before gap name after, DeclarationCut line.toList before gap name after ∧
      m.group? 1 = some (String.ofList name) ∧
      ∀ before' gap' name' after', DeclarationCut line.toList before' gap' name' after' →
        before'.length ≤ before.length := by
  obtain ⟨r, hr, rfl⟩ := Pattern.match?_eq_some_iff.mp hm
  have h := Between.start (Eq.refl line.toList)
  rw [standardPatterns, nameNodes, List.cons_append, Pattern.ofList_cons_matchAt] at hr
  obtain ⟨-, hr⟩ := Between.anchor_eq_some.mp hr
  rw [List.cons_append, Pattern.ofList_cons_matchAt] at hr
  obtain ⟨start, rest₁, hsplit, -, -, hr, hlonger⟩ := h.run_eq_some hr
  have h₁ := (Between.start hsplit).move start
  rw [List.cons_append, Pattern.ofList_cons_matchAt] at hr
  obtain ⟨blanks, rest₂, rfl, hleast, hblanks, hr, -⟩ := h₁.run_eq_some hr
  have h₂ := (h₁.move blanks).open 1
  rw [List.cons_append, Pattern.ofList_cons_matchAt] at hr
  obtain ⟨name, rest₃, rfl, hname, hchars, hr, -⟩ := h₂.run_eq_some hr
  have h₃ := (h₂.move name).close 1
  have hafter : '\n' ∉ rest₃ := fun hmem => hline (by rw [hsplit]; simp [hmem])
  obtain ⟨harguments, hopened, hclosed⟩ := argumentNodes_eq_some h₃ hafter hr
  have hne : blanks ≠ [] := List.length_pos_iff.mp hleast
  have hlast : blanks.dropLast ++ [blanks.getLast hne] = blanks := List.dropLast_concat_getLast hne
  refine ⟨start ++ blanks.dropLast, blanks.getLast hne, name, rest₃, ⟨?_, ?_, ?_, ?_, harguments⟩,
    ?_, ?_⟩
  · rw [hsplit, List.append_assoc, ← List.singleton_append (l := name ++ rest₃),
      ← List.append_assoc blanks.dropLast, hlast]
  · simpa using hblanks _ (List.getLast_mem hne)
  · exact List.length_pos_iff.mp hname
  · exact fun c hc => (accepts_nameShape c).mp (hchars c hc)
  · refine Pattern.group?_eq_some h₂.text_eq (hopened.trans ?_) (hclosed.trans ?_)
    · rw [← h₂.pos_eq]
      rfl
    · rw [← h₂.pos_eq]
      rfl
  · intro before' gap' name' after' hcut
    refine Nat.le_of_not_lt fun hlt => ?_
    rw [List.length_append, List.length_dropLast] at hlt
    have hany : ∀ c ∈ before', Shape.any.accepts {} c = true := fun c hc =>
      accepts_any_of_mem hline (by rw [hcut.line_eq]; simp [hc])
    have hnone := hlonger before' _ hcut.line_eq (by omega) hany
    have hsome := gapNodes_isSome hcut ((Between.start hcut.line_eq).move before') hline
    exact Option.not_isSome_iff_eq_none.mpr hnone hsome

/-- A line is a declaration if it can be cut as one. -/
theorem isDeclaration_of_cut {before name after : List Char} {gap : Char}
    (hline : '\n' ∉ line.toList) (hcut : DeclarationCut line.toList before gap name after) :
    standardPatterns.isDeclaration line = true := by
  refine Pattern.match?_isSome_iff.mpr ?_
  rw [standardPatterns, nameNodes, List.cons_append, Pattern.ofList_cons_matchAt]
  have hstart : Pattern.Anchor.holds line.toList.toArray 0 .textStart = true := rfl
  rw [Node.matchAt, if_pos hstart, List.cons_append, Pattern.ofList_cons_matchAt]
  refine (Between.start hcut.line_eq).run_isSome_iff.mpr ⟨before, _, rfl, Nat.zero_le _,
    fun c hc => accepts_any_of_mem hline (by rw [hcut.line_eq]; simp [hc]), ?_⟩
  exact gapNodes_isSome hcut ((Between.start hcut.line_eq).move before) hline

/-! ## Errors -/

/-- An error line starts with a word of its own. -/
theorem isError_standard_iff (hline : '\n' ∉ line.toList) :
    standardPatterns.isError line = true ↔ "ERROR:".toList <+: line.toList := by
  have hstart : Pattern.Anchor.holds line.toList.toArray 0 .textStart = true := rfl
  have h := Between.start (Eq.refl line.toList)
  rw [LinePatterns.isError, Pattern.match?_isSome_iff, standardPatterns, errorNodes,
    List.cons_append, Pattern.ofList_cons_matchAt, Node.matchAt, if_pos hstart,
    h.literals_isSome_iff]
  constructor
  · rintro ⟨rest, hrest, -⟩
    exact ⟨rest, hrest.symm⟩
  · rintro ⟨rest, hrest⟩
    refine ⟨rest, hrest.symm, ?_⟩
    have h := (Between.start hrest.symm).move "ERROR:".toList
    rw [← List.append_nil rest] at h
    rw [Pattern.ofList_cons_matchAt]
    refine h.run_isSome_iff.mpr ⟨rest, [], rfl, Nat.zero_le _,
      fun c hc => accepts_any_of_mem hline (by rw [← hrest]; simp [hc]), ?_⟩
    exact Option.isSome_iff_exists.mpr
      ⟨_, ((h.move rest).final_eq_some (by simp)).mpr ⟨rfl, rfl⟩⟩

/-! ## Signatures -/

/-- A line cut into the word for signatures, blanks around it, and the signature. -/
structure SignatureCut (line start gap signature : List Char) : Prop where
  line_eq : line = start ++ ("Signature:".toList ++ (gap ++ signature))
  start_blank : ∀ c ∈ start, isBlank c = true
  gap_ne_nil : gap ≠ []
  gap_blank : ∀ c ∈ gap, isBlank c = true
  signature_ne_nil : signature ≠ []

/-- A cut after a first run of one kind of characters can be made in one way only. -/
theorem cut_unique_left {q : Char → Bool} {xs xs' ys ys' : List Char} {c c' : Char}
    (h : xs ++ c :: ys = xs' ++ c' :: ys') (hxs : ∀ a ∈ xs, q a = true)
    (hxs' : ∀ a ∈ xs', q a = true) (hc : q c = false) (hc' : q c' = false) :
    xs = xs' ∧ c :: ys = c' :: ys' := by
  have hleft : xs = xs' := by
    have htake := congrArg (List.takeWhile q) h
    rwa [List.takeWhile_append_of_pos hxs, List.takeWhile_append_of_pos hxs',
      List.takeWhile_cons_of_neg (by simp [hc]), List.takeWhile_cons_of_neg (by simp [hc']),
      List.append_nil, List.append_nil] at htake
  subst hleft
  exact ⟨rfl, List.append_cancel_left h⟩

/-- Two cuts of a line have the same beginning, so they differ by where the signature starts. -/
theorem SignatureCut.unique {line start start' gap gap' signature signature' : List Char}
    (h : SignatureCut line start gap signature) (h' : SignatureCut line start' gap' signature') :
    start = start' ∧ gap ++ signature = gap' ++ signature' := by
  obtain ⟨hstart, hrest⟩ :=
    cut_unique_left (h.line_eq.symm.trans h'.line_eq) h.start_blank h'.start_blank rfl rfl
  have hword : "Signature:".toList ++ (gap ++ signature) =
      "Signature:".toList ++ (gap' ++ signature') := hrest
  exact ⟨hstart, List.append_cancel_left hword⟩

/-- What is left of a line after the blanks can be matched, if anything is left. -/
theorem capturedNodes_isSome {text : Array Char} {s : Pattern.Cursor}
    {before signature : List Char} (h : Between text s before signature)
    (hne : signature ≠ []) (hsignature : '\n' ∉ signature) :
    ((Node.ofList [.group 1 (.longest 1 .any), .anchor .finalLineEnd]).matchAt text s
      (atEnd text)).isSome = true := by
  rw [← List.append_nil signature] at h
  rw [Pattern.ofList_cons_matchAt]
  refine (h.open 1).run_isSome_iff.mpr ⟨signature, [], rfl, List.length_pos_iff.mpr hne,
    fun c hc => accepts_any_of_mem hsignature hc, ?_⟩
  have hend := ((h.open 1).move signature).close 1
  exact Option.isSome_iff_exists.mpr ⟨_, (hend.final_eq_some (by simp)).mpr ⟨rfl, rfl⟩⟩

/-- **What a signature line captures.**  A line that is matched is cut, what stands behind the
blanks is captured, and no cut leaves less to be captured. -/
theorem signature_of_match (hline : '\n' ∉ line.toList)
    (hm : standardPatterns.signature.match? line = some m) :
    ∃ start gap signature, SignatureCut line.toList start gap signature ∧
      m.group? 1 = some (String.ofList signature) ∧
      ∀ start' gap' signature', SignatureCut line.toList start' gap' signature' →
        gap'.length ≤ gap.length := by
  obtain ⟨r, hr, rfl⟩ := Pattern.match?_eq_some_iff.mp hm
  rw [standardPatterns, signatureNodes, List.cons_append, Pattern.ofList_cons_matchAt] at hr
  obtain ⟨-, hr⟩ := Between.anchor_eq_some.mp hr
  rw [List.cons_append, Pattern.ofList_cons_matchAt] at hr
  obtain ⟨start, rest₁, hsplit, -, hstart, hr, -⟩ :=
    (Between.start (Eq.refl line.toList)).run_eq_some hr
  have h₁ := (Between.start hsplit).move start
  obtain ⟨rest₂, rfl, hr⟩ := h₁.literals_eq_some.mp hr
  have h₂ := h₁.move "Signature:".toList
  rw [Pattern.ofList_cons_matchAt] at hr
  obtain ⟨gap, rest₃, rfl, hleast, hgap, hr, hlonger⟩ := h₂.run_eq_some hr
  have h₃ := (h₂.move gap).open 1
  rw [Pattern.ofList_cons_matchAt] at hr
  obtain ⟨signature, rest₄, rfl, hsignature, -, hr, -⟩ := h₃.run_eq_some hr
  have h₄ := (h₃.move signature).close 1
  have hafter : '\n' ∉ rest₄ := fun hmem => hline (by rw [hsplit]; simp [hmem])
  obtain ⟨rfl, rfl⟩ := (h₄.final_eq_some hafter).mp hr
  have hcut : SignatureCut line.toList start gap signature :=
    ⟨by rw [hsplit, List.append_nil], fun c hc => by simpa using hstart c hc,
      List.length_pos_iff.mp hleast, fun c hc => by simpa using hgap c hc,
      List.length_pos_iff.mp hsignature⟩
  refine ⟨start, gap, signature, hcut, ?_, fun start' gap' signature' hcut' => ?_⟩
  · refine Pattern.group?_eq_some h₃.text_eq ?_ ?_ <;> rw [← h₃.pos_eq] <;> rfl
  · refine Nat.le_of_not_lt fun hlt => ?_
    obtain ⟨-, hsame⟩ := hcut.unique hcut'
    have hsame' : gap ++ (signature ++ []) = gap' ++ signature' := by
      rw [List.append_nil, hsame]
    have hblank : ∀ c ∈ gap', blankShape.accepts {} c = true := fun c hc => by
      simpa using hcut'.gap_blank c hc
    have hnone := hlonger gap' signature' hsame' hlt hblank
    have hclean : '\n' ∉ signature' := fun hmem => hline (by rw [hcut'.line_eq]; simp [hmem])
    rw [hsame'] at h₂
    exact Option.not_isSome_iff_eq_none.mpr hnone
      (capturedNodes_isSome (h₂.move gap') hcut'.signature_ne_nil hclean)

/-- A line is a signature line if it can be cut as one. -/
theorem isSignature_of_cut {start gap signature : List Char} (hline : '\n' ∉ line.toList)
    (hcut : SignatureCut line.toList start gap signature) :
    standardPatterns.isSignature line = true := by
  refine Pattern.match?_isSome_iff.mpr ?_
  have hanchor : Pattern.Anchor.holds line.toList.toArray 0 .textStart = true := rfl
  rw [standardPatterns, signatureNodes, List.cons_append, Pattern.ofList_cons_matchAt,
    Node.matchAt, if_pos hanchor, List.cons_append, Pattern.ofList_cons_matchAt]
  refine (Between.start hcut.line_eq).run_isSome_iff.mpr ⟨start, _, rfl, Nat.zero_le _,
    fun c hc => by simpa using hcut.start_blank c hc, ?_⟩
  have h₁ := (Between.start hcut.line_eq).move start
  refine h₁.literals_isSome_iff.mpr ⟨_, rfl, ?_⟩
  have h₂ := h₁.move "Signature:".toList
  rw [Pattern.ofList_cons_matchAt]
  refine h₂.run_isSome_iff.mpr ⟨gap, _, rfl, List.length_pos_iff.mpr hcut.gap_ne_nil,
    fun c hc => by simpa using hcut.gap_blank c hc, ?_⟩
  have hclean : '\n' ∉ signature := fun hmem => hline (by rw [hcut.line_eq]; simp [hmem])
  exact capturedNodes_isSome (h₂.move gap) hcut.signature_ne_nil hclean

end MethodMacros.Report
