import MethodMacros.Proofs.Report.RoundTrip
import Mathlib.Data.List.TakeWhile

/-!
# The language of the standard patterns

Which lines the standard patterns match, and what they capture, said without any matching: by the
places of blanks and parentheses in the line, and by the word for signatures.  The main statement,
`standard_language`, is about lines without a line feed.

## Which cut is captured

The matching of a declaration can often be done in many ways, since two of its runs take anything.
All that matters is the blank in front of the name: the first run is greedy, so the last blank with a
name behind it is taken, and the opening parenthesis behind that name is the first one after it.  In
a signature line only the number of blanks behind the word is open, and the run of blanks takes as
many as it can without taking all.
-/

namespace MethodMacros.Report

open Text (isBlank)

/-! ## Places in a line -/

/-- Between the place `w` of a blank and the place `p` of an opening parenthesis stands a name. -/
structure NamePlace (text : List Char) (w p : Nat) : Prop where
  blank : text[w]?.any isBlank = true
  parenthesis : text[p]? = some '('
  lt : w + 1 < p
  chars : ∀ c ∈ text.extract (w + 1) p, c ≠ '.' ∧ isBlank c = false ∧ c ≠ '('

/-- No name in the line stands behind a later blank. -/
def IsLastNamePlace (line : List Char) (w p : Nat) : Prop :=
  NamePlace line w p ∧ ∀ w' p', NamePlace line w' p' → w' ≤ w

-- The instance for lists is named, since there may be one that goes through all characters.
instance (text : List Char) (w p : Nat) : Decidable (NamePlace text w p) :=
  letI : Decidable (∀ c ∈ text.extract (w + 1) p, c ≠ '.' ∧ isBlank c = false ∧ c ≠ '(') :=
    List.decidableBAll _ _
  decidable_of_iff (text[w]?.any isBlank = true ∧ text[p]? = some '(' ∧ w + 1 < p ∧
      ∀ c ∈ text.extract (w + 1) p, c ≠ '.' ∧ isBlank c = false ∧ c ≠ '(')
    ⟨fun ⟨hblank, hparenthesis, hlt, hchars⟩ => ⟨hblank, hparenthesis, hlt, hchars⟩,
      fun ⟨hblank, hparenthesis, hlt, hchars⟩ => ⟨hblank, hparenthesis, hlt, hchars⟩⟩

instance (line : List Char) (w p : Nat) : Decidable (IsLastNamePlace line w p) :=
  decidable_of_iff (NamePlace line w p ∧
      ∀ p' < line.length, ∀ w' < p', NamePlace line w' p' → w' ≤ w) <| by
    refine and_congr_right fun _ => ⟨fun hlast w' p' hplace => ?_, fun hlast p' _ w' _ => hlast w' p'⟩
    have hlt := hplace.lt
    exact hlast p' (List.getElem?_eq_some_iff.mp hplace.parenthesis).1 w' (by omega) hplace

/-- The opening parenthesis behind a name is the first one after the blank. -/
theorem NamePlace.le {line : List Char} {w p p' : Nat} (h : NamePlace line w p)
    (h' : NamePlace line w p') : p ≤ p' := by
  refine Nat.le_of_not_lt fun hlt => ?_
  have hmem : '(' ∈ line.extract (w + 1) p := by
    refine List.mem_of_getElem? (i := p' - (w + 1)) ?_
    have := h'.lt
    rw [List.extract_eq_take_drop, List.getElem?_take, if_pos (by omega), List.getElem?_drop,
      show w + 1 + (p' - (w + 1)) = p' by omega, h'.parenthesis]
  exact (h.chars '(' hmem).2.2 rfl

/-- A line has one last name. -/
theorem IsLastNamePlace.unique {line : List Char} {w p w' p' : Nat}
    (h : IsLastNamePlace line w p) (h' : IsLastNamePlace line w' p') : w = w' ∧ p = p' := by
  obtain rfl := Nat.le_antisymm (h'.2 w p h.1) (h.2 w' p' h'.1)
  exact ⟨rfl, Nat.le_antisymm (h.1.le h'.1) (h'.1.le h.1)⟩

/-- A line ends with a semicolon, and its last parenthesis is a closing one. -/
def EndsAsDeclaration (line : List Char) : Prop :=
  line.getLast? = some ';' ∧ (line.filter fun c => decide (IsParenthesis c)).getLast? = some ')'

/-- A line holds `rest` behind the word for signatures, with nothing but blanks in front of it. -/
def SignatureRest (line rest : List Char) : Prop :=
  (∃ start, line = start ++ ("Signature:".toList ++ rest) ∧ ∀ c ∈ start, isBlank c = true) ∧
    rest.head?.any isBlank = true ∧ 2 ≤ rest.length

/-- The signature in what stands behind the word: all from the first character on that is no blank,
or else the last character. -/
def signatureIn (rest : List Char) : List Char :=
  if rest.all isBlank then rest.getLast?.toList else rest.dropWhile isBlank

/-! ## Declarations -/

section Declarations

variable {line before name after : List Char} {gap : Char} {w p : Nat}

/-- The last character of a kind, and what stands around it. -/
theorem getLast?_filter_eq_some {q : Char → Bool} {l : List Char} {c : Char} :
    (l.filter q).getLast? = some c ↔
      ∃ xs ys, l = xs ++ c :: ys ∧ q c = true ∧ ∀ y ∈ ys, q y = false := by
  rw [← List.head?_reverse, ← List.filter_reverse, List.head?_filter, List.find?_eq_some_iff_append]
  constructor
  · rintro ⟨hc, ys, xs, hl, hys⟩
    refine ⟨xs.reverse, ys.reverse, ?_, hc, by simpa using hys⟩
    rw [List.reverse_eq_iff] at hl
    simpa using hl
  · rintro ⟨xs, ys, rfl, hc, hys⟩
    exact ⟨hc, ys.reverse, xs.reverse, by simp, by simpa using hys⟩

/-- In a cut of a line the name stands between two places, and the line ends as a declaration. -/
theorem DeclarationCut.namePlace (hcut : DeclarationCut line before gap name after) :
    NamePlace line before.length (before.length + 1 + name.length) ∧ EndsAsDeclaration line ∧
      line.extract (before.length + 1) (before.length + 1 + name.length) = name := by
  obtain ⟨arguments, clause, hafter, hclause⟩ := hcut.arguments
  have hfront : line = (before ++ [gap]) ++ (name ++ after) := by
    rw [hcut.line_eq, List.append_assoc, List.singleton_append]
  have hextract : line.extract (before.length + 1) (before.length + 1 + name.length) = name := by
    have hlength : before.length + 1 = (before ++ [gap]).length := by simp
    rw [List.extract_eq_take_drop, Nat.add_sub_cancel_left, hlength, hfront, List.drop_left,
      List.take_left]
  refine ⟨⟨?_, ?_, ?_, ?_⟩, ⟨?_, ?_⟩, hextract⟩
  · rw [hcut.line_eq]
    simpa using hcut.gap_blank
  · have hlength : before.length + 1 + name.length = ((before ++ [gap]) ++ name).length := by
      rw [List.length_append, List.length_append, List.length_singleton]
    rw [hfront, ← List.append_assoc, hlength, List.getElem?_append_right (Nat.le_refl _),
      Nat.sub_self, hafter]
    rfl
  · have := List.length_pos_iff.mpr hcut.name_ne_nil
    omega
  · rw [hextract]
    exact hcut.name_chars
  · refine List.getLast?_eq_some_iff.mpr
      ⟨(before ++ [gap]) ++ (name ++ '(' :: (arguments ++ ')' :: clause)), ?_⟩
    rw [hfront, hafter]
    simp
  · refine getLast?_filter_eq_some.mpr ⟨(before ++ [gap]) ++ (name ++ '(' :: arguments),
      clause ++ [';'], ?_, rfl, fun c hc => ?_⟩
    · rw [hfront, hafter]
      simp
    · rcases List.mem_append.mp hc with hc | hc
      · obtain ⟨hopen, hclose⟩ := hclause c hc
        simp [IsParenthesis, hopen, hclose]
      · obtain rfl := List.mem_singleton.mp hc
        rfl

/-- What follows an opening parenthesis in a line that ends as a declaration can be arguments. -/
theorem EndsAsDeclaration.isArguments (hends : EndsAsDeclaration line)
    (hline : line = before ++ '(' :: after) : IsArguments ('(' :: after) := by
  obtain ⟨hlast, hparenthesis⟩ := hends
  obtain ⟨xs, ys, hsplit, -, hys⟩ := getLast?_filter_eq_some.mp hparenthesis
  -- The last parenthesis is another one than the opening one, so it stands behind it.
  obtain ⟨arguments, rfl⟩ : ∃ arguments, xs = before ++ '(' :: arguments := by
    rcases List.append_eq_append_iff.mp (hline.symm.trans hsplit) with
      ⟨more, rfl, hmore⟩ | ⟨more, rfl, hmore⟩
    · cases more with
      | nil => cases hmore
      | cons c more =>
        obtain ⟨rfl, -⟩ := List.cons.inj hmore
        exact ⟨more, rfl⟩
    · cases more with
      | nil => cases hmore
      | cons c more =>
        obtain ⟨rfl, rfl⟩ := List.cons.inj hmore
        have hopen := hys '(' (by simp)
        cases hopen
  have hafter : '(' :: after = '(' :: (arguments ++ ')' :: ys) := by
    have hsame := hline.symm.trans hsplit
    rw [List.append_assoc] at hsame
    exact List.append_cancel_left hsame
  obtain ⟨init, hinit⟩ := List.getLast?_eq_some_iff.mp hlast
  obtain ⟨clause, rfl⟩ : ∃ clause, ys = clause ++ [';'] := by
    rcases List.eq_nil_or_concat ys with rfl | ⟨clause, c, rfl⟩
    · cases (List.append_inj' (hsplit.symm.trans hinit) rfl).2
    · have hends := hsplit.symm.trans hinit
      rw [List.concat_eq_append, ← List.cons_append, ← List.append_assoc] at hends
      obtain ⟨-, hc⟩ := List.append_inj' hends rfl
      exact ⟨clause, by rw [List.concat_eq_append, hc]⟩
  refine ⟨arguments, clause, hafter, fun c hc => ?_⟩
  exact not_or.mp (of_decide_eq_false (hys c (List.mem_append_left _ hc)))

/-- A line that ends as a declaration is cut by the place of a name. -/
theorem NamePlace.exists_cut (hplace : NamePlace line w p) (hends : EndsAsDeclaration line) :
    ∃ gap, DeclarationCut line (line.take w) gap (line.extract (w + 1) p) (line.drop p) := by
  obtain ⟨gap, hgap, hblank⟩ := (Option.any_eq_true _ _).mp hplace.blank
  obtain ⟨hw, hgap⟩ := List.getElem?_eq_some_iff.mp hgap
  obtain ⟨hp, hparenthesis⟩ := List.getElem?_eq_some_iff.mp hplace.parenthesis
  have hlt := hplace.lt
  have hextract : line.extract (w + 1) p = (line.drop (w + 1)).take (p - (w + 1)) :=
    List.extract_eq_take_drop
  have hdrop : line.drop p = '(' :: line.drop (p + 1) := by
    rw [List.drop_eq_getElem_cons hp, hparenthesis]
  refine ⟨gap, ?_, hblank, ?_, hplace.chars, ?_⟩
  · have hbehind : line.drop (w + 1) = line.extract (w + 1) p ++ line.drop p := by
      have hrest := List.take_append_drop (p - (w + 1)) (line.drop (w + 1))
      rw [List.drop_drop, show w + 1 + (p - (w + 1)) = p by omega] at hrest
      rw [hextract, hrest]
    rw [← hbehind, ← hgap, ← List.drop_eq_getElem_cons hw, List.take_append_drop]
  · rw [hextract]
    refine List.length_pos_iff.mp ?_
    rw [List.length_take, List.length_drop]
    omega
  · rw [hdrop]
    have hline : line = line.take p ++ '(' :: line.drop (p + 1) := by
      rw [← hdrop, List.take_append_drop]
    exact hends.isArguments hline

end Declarations

variable {line : String} {m : Pattern.Match} {rest : List Char}

/-- **Declarations.**  The lines that the pattern for declarations matches. -/
theorem isDeclaration_standard_iff (hline : '\n' ∉ line.toList) :
    standardPatterns.isDeclaration line = true ↔
      EndsAsDeclaration line.toList ∧ ∃ w p, NamePlace line.toList w p := by
  constructor
  · intro hdeclaration
    obtain ⟨m, hm⟩ := Option.isSome_iff_exists.mp hdeclaration
    obtain ⟨before, gap, name, after, hcut, -, -⟩ := name_of_match hline hm
    obtain ⟨hplace, hends, -⟩ := hcut.namePlace
    exact ⟨hends, _, _, hplace⟩
  · rintro ⟨hends, w, p, hplace⟩
    obtain ⟨gap, hcut⟩ := hplace.exists_cut hends
    exact isDeclaration_of_cut hline hcut

/-- The name that is captured stands behind the last blank that it can stand behind. -/
theorem exists_lastNamePlace (hline : '\n' ∉ line.toList)
    (hm : standardPatterns.name.match? line = some m) :
    ∃ w p, IsLastNamePlace line.toList w p ∧
      m.group? 1 = some (String.ofList (line.toList.extract (w + 1) p)) := by
  obtain ⟨before, gap, name, after, hcut, hgroup, hlast⟩ := name_of_match hline hm
  obtain ⟨hplace, hends, hname⟩ := hcut.namePlace
  refine ⟨_, _, ⟨hplace, fun w' p' hplace' => ?_⟩, by rw [hname, hgroup]⟩
  obtain ⟨gap', hcut'⟩ := hplace'.exists_cut hends
  have hle := hlast _ _ _ _ hcut'
  obtain ⟨c, hc, -⟩ := (Option.any_eq_true _ _).mp hplace'.blank
  rwa [List.length_take, Nat.min_eq_left (Nat.le_of_lt (List.getElem?_eq_some_iff.mp hc).1)] at hle

/-! ## Signatures -/

/-- A signature line is cut behind the blanks after the word, if anything is left then. -/
theorem SignatureCut.of_rest {line start rest gap signature : List Char}
    (hline : line = start ++ ("Signature:".toList ++ rest)) (hstart : ∀ c ∈ start, isBlank c = true)
    (hrest : rest = gap ++ signature) (hgap : gap ≠ []) (hblank : ∀ c ∈ gap, isBlank c = true)
    (hsignature : signature ≠ []) : SignatureCut line start gap signature :=
  ⟨hrest ▸ hline, hstart, hgap, hblank, hsignature⟩

theorem SignatureCut.signatureRest {line start gap signature : List Char}
    (hcut : SignatureCut line start gap signature) : SignatureRest line (gap ++ signature) := by
  have hgap := List.length_pos_iff.mpr hcut.gap_ne_nil
  have hsignature := List.length_pos_iff.mpr hcut.signature_ne_nil
  refine ⟨⟨start, hcut.line_eq, hcut.start_blank⟩, ?_, by rw [List.length_append]; omega⟩
  obtain ⟨c, gap', rfl⟩ := List.exists_cons_of_ne_nil hcut.gap_ne_nil
  exact hcut.gap_blank c List.mem_cons_self

/-- What stands behind the word for signatures in a line is one text. -/
theorem SignatureRest.unique {line rest rest' : List Char} (h : SignatureRest line rest)
    (h' : SignatureRest line rest') : rest = rest' := by
  obtain ⟨⟨start, hline, hstart⟩, -⟩ := h
  obtain ⟨⟨start', hline', hstart'⟩, -⟩ := h'
  have hword : "Signature:".toList ++ rest = "Signature:".toList ++ rest' :=
    (cut_unique_left (hline.symm.trans hline') hstart hstart' rfl rfl).2
  exact List.append_cancel_left hword

/-- What stands behind the word for signatures can be cut into blanks and a signature; these are the
longest blanks that leave anything. -/
theorem SignatureRest.exists_cut {line rest : List Char} (h : SignatureRest line rest) :
    ∃ start gap, SignatureCut line start gap (signatureIn rest) ∧ rest = gap ++ signatureIn rest ∧
      ∀ gap' signature', rest = gap' ++ signature' → (∀ c ∈ gap', isBlank c = true) →
        signature' ≠ [] → gap'.length ≤ gap.length := by
  obtain ⟨⟨start, hline, hstart⟩, hhead, hlength⟩ := h
  obtain ⟨c, more, rfl⟩ : ∃ c more, rest = c :: more :=
    List.exists_cons_of_length_pos (by omega)
  have hc : isBlank c = true := by simpa using hhead
  have hmore : more ≠ [] := List.length_pos_iff.mp (by rw [List.length_cons] at hlength; omega)
  unfold signatureIn
  by_cases hall : (c :: more).all isBlank = true
  · have hrest : c :: more = (c :: more).dropLast ++ (c :: more).getLast?.toList := by
      rw [List.getLast?_eq_some_getLast (List.cons_ne_nil c more), Option.toList_some,
        List.dropLast_concat_getLast]
    rw [if_pos hall]
    refine ⟨start, (c :: more).dropLast, .of_rest hline hstart hrest ?_ ?_ ?_, hrest, ?_⟩
    · rw [List.dropLast_cons_of_ne_nil hmore]
      exact List.cons_ne_nil _ _
    · exact fun a ha => List.all_eq_true.mp hall a ((c :: more).dropLast_subset ha)
    · simp
    · intro gap' signature' hsplit _ hne
      have hpos := List.length_pos_iff.mpr hne
      have hlen := congrArg List.length hsplit
      rw [List.length_append] at hlen
      rw [List.length_dropLast]
      omega
  · have hrest : c :: more = (c :: more).takeWhile isBlank ++ (c :: more).dropWhile isBlank :=
      List.takeWhile_append_dropWhile.symm
    rw [if_neg hall]
    refine ⟨start, (c :: more).takeWhile isBlank, .of_rest hline hstart hrest ?_ ?_ ?_, hrest, ?_⟩
    · rw [List.takeWhile_cons_of_pos hc]
      exact List.cons_ne_nil _ _
    · exact fun a ha => List.all_eq_true.mp List.all_takeWhile a ha
    · intro hnil
      exact hall (List.all_eq_true.mpr (List.dropWhile_eq_nil_iff.mp hnil))
    · intro gap' signature' hsplit hblank _
      rw [hsplit]
      exact Pattern.Between.length_le_takeWhile signature' hblank

/-- **Signatures.**  The lines that the pattern for signatures matches. -/
theorem isSignature_standard_iff (hline : '\n' ∉ line.toList) :
    standardPatterns.isSignature line = true ↔ ∃ rest, SignatureRest line.toList rest := by
  constructor
  · intro hsignature
    obtain ⟨m, hm⟩ := Option.isSome_iff_exists.mp hsignature
    obtain ⟨start, gap, signature, hcut, -, -⟩ := signature_of_match hline hm
    exact ⟨_, hcut.signatureRest⟩
  · rintro ⟨rest, hrest⟩
    obtain ⟨start, gap, hcut, -, -⟩ := hrest.exists_cut
    exact isSignature_of_cut hline hcut

/-- The signature that is captured. -/
theorem group?_of_signatureRest (hline : '\n' ∉ line.toList)
    (hm : standardPatterns.signature.match? line = some m) (hrest : SignatureRest line.toList rest) :
    m.group? 1 = some (String.ofList (signatureIn rest)) := by
  obtain ⟨start, gap, signature, hcut, hgroup, hlongest⟩ := signature_of_match hline hm
  obtain ⟨start', gap', hcut', hsplit, hlongest'⟩ := hrest.exists_cut
  obtain rfl : rest = gap ++ signature := hrest.unique hcut.signatureRest
  have hle := hlongest _ _ _ hcut'
  have hge := hlongest' gap signature rfl hcut.gap_blank hcut.signature_ne_nil
  obtain ⟨-, hsignature⟩ := List.append_inj hsplit (Nat.le_antisymm hge hle)
  rw [hgroup, ← hsignature]

/-! ## The three patterns -/

/-- **The language of the standard patterns.**  A configuration that names only a class has patterns
that can be used, and for every line without a line feed they match and capture as follows.  The
line is an error if it begins with the word for errors.  It is a declaration if it ends as one and a
name stands somewhere between a blank and an opening parenthesis; the name behind the last such
blank is captured.  It is a signature line if, behind blanks, it begins with the word for
signatures, a blank and at least one more character; what is captured starts at the first character
that is no blank, or is the last blank if all are blanks. -/
theorem standard_language (className line : String) (hline : '\n' ∉ line.toList) :
    ∃ p : LinePatterns, ({ className := className } : Config).patterns = .ok p ∧
      ((p.error.match? line).isSome = true ↔ "ERROR:".toList <+: line.toList) ∧
      ((p.name.match? line).isSome = true ↔
        EndsAsDeclaration line.toList ∧ ∃ w q, NamePlace line.toList w q) ∧
      (∀ m, p.name.match? line = some m → ∃ w q, IsLastNamePlace line.toList w q ∧
        m.group? 1 = some (String.ofList (line.toList.extract (w + 1) q))) ∧
      ((p.signature.match? line).isSome = true ↔ ∃ rest, SignatureRest line.toList rest) ∧
      ∀ m rest, p.signature.match? line = some m → SignatureRest line.toList rest →
        m.group? 1 = some (String.ofList (signatureIn rest)) :=
  ⟨standardPatterns, patterns_of_className className, isError_standard_iff hline,
    isDeclaration_standard_iff hline, fun _ hm => exists_lastNamePlace hline hm,
    isSignature_standard_iff hline, fun _ _ hm hrest => group?_of_signatureRest hline hm hrest⟩

/-- A declaration with parentheses in its arguments and a clause behind them: the name behind the
last blank that a name can stand behind is captured. -/
theorem standard_language_thrownDeclaration :
    let line := "  void run(int (x), long) throws E;"
    '\n' ∉ line.toList ∧ ∃ p : LinePatterns, ({ className := "a.B" } : Config).patterns = .ok p ∧
      ∃ m, p.name.match? line = some m ∧ m.group? 1 = some "run" := by
  intro line
  have hline : '\n' ∉ line.toList := by decide +kernel
  have hlast : IsLastNamePlace line.toList 6 10 := by decide +kernel
  have hends : EndsAsDeclaration line.toList := ⟨by decide +kernel, by decide +kernel⟩
  obtain ⟨p, hp, -, hdeclaration, hname, -⟩ := standard_language "a.B" line hline
  obtain ⟨m, hm⟩ := Option.isSome_iff_exists.mp (hdeclaration.mpr ⟨hends, 6, 10, hlast.1⟩)
  obtain ⟨w, q, hplace, hgroup⟩ := hname m hm
  obtain ⟨rfl, rfl⟩ := hplace.unique hlast
  have hrun : String.ofList (line.toList.extract (6 + 1) 10) = "run" := by decide +kernel
  exact ⟨hline, p, hp, m, hm, hgroup.trans (congrArg some hrun)⟩

end MethodMacros.Report
