import MethodMacros.Proofs.Header.Definitions
import MethodMacros.Proofs.Naming.PlainNames
import Mathlib.Data.List.Infix

/-!
# Texts as a C preprocessor reads them

A preprocessor first joins lines that end with a backslash to the next ones, then puts a blank in the
place of each comment, and then looks for directives line by line.  The second of these steps has to know
where literals are, since what looks like a comment in a literal is none.  This is the reader that
headers are held against; it knows no trigraphs, as C has none since its 2023 edition.

It is a strict one.  A literal that is not closed on its line, a comment that is not closed, a line that
is neither blank nor one of the directives below, a macro with parameters or a replacement other than a
string without escapes: with any of these it reads nothing at all.

## Line by line

If no line ends with a backslash, and no comment or literal goes beyond its line, then the three steps
can be followed on each line alone.  `ReadsAs` says so of a line with the directives on it, and
`directives?_of_readsAs` puts lines together again.
-/

namespace MethodMacros.Header

open Naming (IsPlainName isPlainChar)
open Text (splitAt splitAt_flatMap)

/-! ## The reader -/

/-- Where a preprocessor is in a text. -/
inductive Region where
  | code
  | literal (mark : Char)
  | lineComment
  | blockComment
  deriving DecidableEq, Repr

/-- A line that ends with a backslash goes on in the next line. -/
def joinLines : List Char → List Char
  | [] => []
  | '\\' :: '\n' :: rest => joinLines rest
  | c :: rest => c :: joinLines rest

/-- A text with a blank in the place of each comment. -/
def withoutComments : Region → List Char → Option (List Char)
  | .code, [] | .lineComment, [] => some []
  | .literal _, [] | .blockComment, [] => none
  | .code, '/' :: '*' :: rest => (withoutComments .blockComment rest).map (' ' :: ·)
  | .code, '/' :: '/' :: rest => (withoutComments .lineComment rest).map (' ' :: ·)
  | .code, c :: rest =>
      (withoutComments (if c = '"' ∨ c = '\'' then .literal c else .code) rest).map (c :: ·)
  | .literal mark, '\\' :: c :: rest =>
      if c = '\n' then none
      else (withoutComments (.literal mark) rest).map ('\\' :: c :: ·)
  | .literal mark, c :: rest =>
      if c = '\n' then none
      else (withoutComments (if c = mark then .code else .literal mark) rest).map (c :: ·)
  | .lineComment, c :: rest =>
      if c = '\n' then (withoutComments .code rest).map ('\n' :: ·)
      else withoutComments .lineComment rest
  | .blockComment, '*' :: '/' :: rest => withoutComments .code rest
  | .blockComment, _ :: rest => withoutComments .blockComment rest

/-- A directive.  The replacement of a macro is empty or a string. -/
inductive Directive where
  | unlessDefined (name : String)
  | define (name : String) (text : Option String)
  | endif
  deriving DecidableEq, Repr

def isSpacing (c : Char) : Bool :=
  c == ' ' || c == '\t'

/-- The name that comes next on a line, which a blank or the end of the line follows, and what comes
after it. -/
def nextName? (line : List Char) : Option (String × List Char) :=
  let line := line.dropWhile isSpacing
  let name := String.ofList (line.takeWhile isPlainChar)
  let rest := line.dropWhile isPlainChar
  if IsPlainName name ∧ rest.head?.all isSpacing then some (name, rest) else none

/-- The replacement that the rest of a line gives: nothing, or the text of a string. -/
def replacement? (rest : List Char) : Option (Option String) :=
  match rest.dropWhile isSpacing with
  | [] => some none
  | c :: rest =>
      let text := rest.takeWhile (· != '"')
      let after := (rest.dropWhile (· != '"')).drop 1
      if c = '"' ∧ '"' ∈ rest ∧ '\\' ∉ text ∧ after.all isSpacing then some (some (String.ofList text))
      else none

/-- The directive of a word, with what stands after the word. -/
def directiveOf? (word : String) (rest : List Char) : Option Directive :=
  if word = "ifndef" then do
    let (name, rest) ← nextName? rest
    if rest.all isSpacing then some (.unlessDefined name) else none
  else if word = "define" then do
    let (name, rest) ← nextName? rest
    return .define name (← replacement? rest)
  else if word = "endif" then
    if rest.all isSpacing then some .endif else none
  else none

/-- The directive on a line. -/
def directive? (line : List Char) : Option Directive :=
  match line.dropWhile isSpacing with
  | '#' :: rest => do
      let (word, rest) ← nextName? rest
      directiveOf? word rest
  | _ => none

/-- The directives on a line without comments: none if it is blank. -/
def lineDirectives? (line : List Char) : Option (List Directive) :=
  if line.all isSpacing then some [] else (directive? line).map ([·])

/-- The directives of a text that has nothing but directives and comments. -/
def directives? (text : String) : Option (List Directive) := do
  let bare ← withoutComments .code (joinLines text.toList)
  return (← (splitAt '\n' bare).mapM lineDirectives?).flatten

/-! ## Joined lines -/

/-- Lines are joined only at a backslash in front of a line feed. -/
theorem joinLines_cons {c : Char} {rest : List Char} (h : c = '\\' → rest.head? ≠ some '\n') :
    joinLines (c :: rest) = c :: joinLines rest := by
  by_cases hc : c = '\\'
  · cases rest with
    | nil => simp [joinLines]
    | cons d rest =>
      have hd : d ≠ '\n' := by simpa using h hc
      simp [joinLines, hd]
  · simp [joinLines, hc]

/-- A line that does not end with a backslash is joined to nothing. -/
theorem joinLines_line {line : List Char} (hclean : '\n' ∉ line) (hlast : line.getLast? ≠ some '\\')
    (rest : List Char) : joinLines (line ++ '\n' :: rest) = line ++ '\n' :: joinLines rest := by
  induction line with
  | nil => exact joinLines_cons fun h => absurd h (by decide)
  | cons c line ih =>
    have hclean' : '\n' ∉ line := fun h => hclean (List.mem_cons_of_mem c h)
    have hhead : c = '\\' → (line ++ '\n' :: rest).head? ≠ some '\n' := by
      intro hc hfeed
      cases line with
      | nil => exact hlast (by rw [hc]; rfl)
      | cons d line =>
        obtain rfl : d = '\n' := by simpa using hfeed
        exact hclean' List.mem_cons_self
    have hlast' : line.getLast? ≠ some '\\' := by
      cases line with
      | nil => simp
      | cons d line => rwa [List.getLast?_cons_cons] at hlast
    rw [List.cons_append, joinLines_cons hhead, ih hclean' hlast', List.cons_append]

/-! ## Comments and literals -/

/-- Code without slashes and quotation marks stays as it is. -/
theorem withoutComments_code {s : List Char} (h : ∀ c ∈ s, c ≠ '/' ∧ c ≠ '"' ∧ c ≠ '\'')
    (rest : List Char) :
    withoutComments .code (s ++ rest) = (withoutComments .code rest).map (s ++ ·) := by
  induction s with
  | nil => simp
  | cons c s ih =>
    obtain ⟨hslash, hdouble, hsingle⟩ := h c List.mem_cons_self
    have hrest := ih fun d hd => h d (List.mem_cons_of_mem c hd)
    simp [withoutComments, hslash, hdouble, hsingle, hrest, Function.comp_def]

theorem withoutComments_lineFeed (rest : List Char) :
    withoutComments .code ('\n' :: rest) = (withoutComments .code rest).map ('\n' :: ·) := by
  simp [withoutComments]

theorem withoutComments_string {s : List Char} (h : ∀ c ∈ s, c ≠ '\n' ∧ c ≠ '"' ∧ c ≠ '\\')
    (rest : List Char) :
    withoutComments (.literal '"') (s ++ '"' :: rest) =
      (withoutComments .code rest).map fun bare => s ++ '"' :: bare := by
  induction s with
  | nil => simp [withoutComments]
  | cons c s ih =>
    obtain ⟨hfeed, hmark, hescape⟩ := h c List.mem_cons_self
    have hrest := ih fun d hd => h d (List.mem_cons_of_mem c hd)
    simp [withoutComments, hfeed, hmark, hescape, hrest, Function.comp_def]

theorem withoutComments_lineComment {s : List Char} (h : '\n' ∉ s) (rest : List Char) :
    withoutComments .lineComment (s ++ '\n' :: rest) =
      (withoutComments .code rest).map ('\n' :: ·) := by
  induction s with
  | nil => simp [withoutComments]
  | cons c s ih =>
    have hfeed : c ≠ '\n' := fun he => h (he ▸ List.mem_cons_self)
    have hrest := ih fun hs => h (List.mem_cons_of_mem c hs)
    simp [withoutComments, hfeed, hrest]

/-- A comment goes on until an asterisk in front of a slash. -/
theorem withoutComments_blockComment_cons {c : Char} {rest : List Char}
    (h : c = '*' → rest.head? ≠ some '/') :
    withoutComments .blockComment (c :: rest) = withoutComments .blockComment rest := by
  by_cases hc : c = '*'
  · cases rest with
    | nil => simp [withoutComments]
    | cons d rest =>
      have hd : d ≠ '/' := by simpa using h hc
      simp [withoutComments, hd]
  · simp [withoutComments, hc]

/-- A comment without its closing mark inside ends at that mark. -/
theorem withoutComments_blockComment {s : List Char} (h : ¬ ['*', '/'] <:+: s) (rest : List Char) :
    withoutComments .blockComment (s ++ '*' :: '/' :: rest) = withoutComments .code rest := by
  induction s with
  | nil => simp [withoutComments]
  | cons c s ih =>
    have hhead : c = '*' → (s ++ '*' :: '/' :: rest).head? ≠ some '/' := by
      intro hc hslash
      cases s with
      | nil => simp at hslash
      | cons d s =>
        obtain rfl : d = '/' := by simpa using hslash
        exact h ⟨[], s, by rw [hc]; rfl⟩
    rw [List.cons_append, withoutComments_blockComment_cons hhead,
      ih fun hs => h (List.infix_cons hs)]

/-! ## Names and replacements -/

theorem not_isSpacing_of_isPlainChar {c : Char} (hc : isPlainChar c) : isSpacing c = false :=
  Naming.forall_isPlainChar (p := fun c => isPlainChar c → isSpacing c = false) (by decide +kernel)
    hc hc

/-- After blanks a plain name is read, up to a blank or the end. -/
theorem nextName?_append {name : String} (blanks : List Char) {rest : List Char} (hname : IsPlainName name)
    (hblanks : blanks.all isSpacing) (hrest : rest.head?.all isSpacing) :
    nextName? (blanks ++ (name.toList ++ rest)) = some (name, rest) := by
  have hbegins : (name.toList ++ rest).dropWhile isSpacing = name.toList ++ rest := by
    have hhead := hname.head
    cases hchars : name.toList with
    | nil => simp [hchars] at hhead
    | cons c chars =>
      have hc : isPlainChar c := hname.plain c (by rw [hchars]; exact List.mem_cons_self)
      rw [List.cons_append, List.dropWhile_cons_of_neg (by simp [not_isSpacing_of_isPlainChar hc])]
  have hdrop : (blanks ++ (name.toList ++ rest)).dropWhile isSpacing = name.toList ++ rest := by
    rw [List.dropWhile_append_of_pos (List.all_eq_true.mp hblanks), hbegins]
  have hstop : rest.takeWhile isPlainChar = [] ∧ rest.dropWhile isPlainChar = rest := by
    cases rest with
    | nil => exact ⟨rfl, rfl⟩
    | cons c rest =>
      have hspacing : isSpacing c = true := by simpa using hrest
      have hc : ¬ isPlainChar c = true := fun hplain => by
        simp [not_isSpacing_of_isPlainChar hplain] at hspacing
      exact ⟨List.takeWhile_cons_of_neg hc, List.dropWhile_cons_of_neg hc⟩
  rw [nextName?, hdrop, List.takeWhile_append_of_pos hname.plain,
    List.dropWhile_append_of_pos hname.plain, hstop.1, hstop.2, List.append_nil, String.ofList_toList,
    if_pos ⟨hname, hrest⟩]

theorem replacement?_string {text : String} (h : ∀ c ∈ text.toList, c ≠ '"' ∧ c ≠ '\\') :
    replacement? (' ' :: '"' :: (text.toList ++ ['"'])) = some (some text) := by
  have hbegins : (' ' :: '"' :: (text.toList ++ ['"'])).dropWhile isSpacing =
      '"' :: (text.toList ++ ['"']) := by
    simp [isSpacing]
  have hmark : ∀ c ∈ text.toList, (c != '"') = true := fun c hc => by simpa using (h c hc).1
  have hescape : '\\' ∉ text.toList := fun hc => (h _ hc).2 rfl
  rw [replacement?, hbegins]
  simp [List.takeWhile_append_of_pos hmark, List.dropWhile_append_of_pos hmark, hescape]

/-! ## Lines -/

/-- A line has some directives, whatever lines stand around it. -/
structure ReadsAs (line : List Char) (directives : List Directive) : Prop where
  clean : '\n' ∉ line
  unjoined : line.getLast? ≠ some '\\'
  bare : ∃ bare, '\n' ∉ bare ∧ lineDirectives? bare = some directives ∧
    ∀ rest, withoutComments .code (line ++ '\n' :: rest) =
      (withoutComments .code rest).map (bare ++ '\n' :: ·)

variable {lines : List (List Char)} {directives : List (List Directive)}

/-- Lines that read as directives are joined to nothing. -/
theorem joinLines_of_readsAs (h : List.Forall₂ ReadsAs lines directives) :
    joinLines (lines.flatMap (· ++ ['\n'])) = lines.flatMap (· ++ ['\n']) := by
  induction h with
  | nil => rfl
  | cons hline _ ih =>
    rw [List.flatMap_cons, List.append_assoc, List.singleton_append,
      joinLines_line hline.clean hline.unjoined, ih]

/-- What is left of lines without comments has the directives of the lines. -/
theorem exists_withoutComments_of_readsAs (h : List.Forall₂ ReadsAs lines directives) :
    ∃ bares : List (List Char), (∀ bare ∈ bares, '\n' ∉ bare) ∧
      bares.mapM lineDirectives? = some directives ∧
      withoutComments .code (lines.flatMap (· ++ ['\n'])) =
        some (bares.flatMap (· ++ ['\n'])) := by
  induction h with
  | nil => exact ⟨[], by simp, rfl, rfl⟩
  | @cons line here lines later hline _ ih =>
    obtain ⟨bares, hclean, hdirectives, hbares⟩ := ih
    obtain ⟨bare, hbare, hhere, hwithout⟩ := hline.bare
    refine ⟨bare :: bares, List.forall_mem_cons.mpr ⟨hbare, hclean⟩, ?_, ?_⟩
    · rw [List.mapM_cons, hhere, hdirectives]
      rfl
    · rw [List.flatMap_cons, List.append_assoc, List.singleton_append, hwithout, hbares,
        Option.map_some, List.flatMap_cons, List.append_assoc, List.singleton_append]

/-- A text has the directives of its lines. -/
theorem directives?_of_readsAs {text : String} (htext : text.toList = lines.flatMap (· ++ ['\n']))
    (h : List.Forall₂ ReadsAs lines directives) : directives? text = some directives.flatten := by
  obtain ⟨bares, hclean, hdirectives, hbares⟩ := exists_withoutComments_of_readsAs h
  have hlines : (splitAt '\n' (bares.flatMap (· ++ ['\n']))).mapM lineDirectives? =
      some (directives ++ [[]]) := by
    rw [splitAt_flatMap hclean, List.mapM_append, hdirectives]
    rfl
  rw [directives?, htext, joinLines_of_readsAs h, hbares, Option.bind_eq_bind, Option.bind_some,
    hlines]
  simp

end MethodMacros.Header
