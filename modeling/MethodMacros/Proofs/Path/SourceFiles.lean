import MethodMacros.Proofs.Path
import Mathlib.Data.List.ModifyLast

/-!
# Source files

The file that declares a class is named by the class: the dots become slashes, an ending is added,
and the text is joined to the root of the sources as a path.  Joining a path can do other things
than to go down.  A path that begins with a slash replaces the root, empty components and single
dots vanish, and two dots lead up.

With names that have no empty segment and no slash none of this happens.  A segment has no dot, so
it is neither one dot nor two, and the last one has the ending besides.  So a source file has
exactly the segments of its class below the root, and no two classes have one file
(`sourceFile_below`).

* `segments`, `IsSegmented`, `sourceNames`: the parts of a class name, and the names below the root.
* `sourceFile_eq`: the path of a source file is the root with these names, by `splitAt_slashed` and
  `rootOf_slashed`, which say how its text is cut.
* `sourceNames_injective`: a class is told by its names.
* `foldl_lexicalStep`: names that do not lead up stay below the root when a path is normalised.
-/

namespace MethodMacros

open Text (splitAt splitFrom)

/-! ## Segments -/

/-- The parts of a class name between its dots. -/
def segments (className : String) : List String :=
  (splitAt '.' className.toList).map String.ofList

/-- A class name whose segments can be names of files. -/
structure IsSegmented (className : String) : Prop where
  full : "" ∉ segments className
  no_slash : '/' ∉ className.toList

instance (className : String) : Decidable (IsSegmented className) :=
  decidable_of_iff ("" ∉ segments className ∧ '/' ∉ className.toList)
    ⟨fun h => ⟨h.1, h.2⟩, fun h => ⟨h.full, h.no_slash⟩⟩

/-- The names of a source file below the root. -/
def sourceNames (className : String) : List String :=
  (segments className).modifyLast (· ++ ".java")

variable {className other : String}

/-- A class name is its segments with dots between them. -/
theorem intercalate_segments (className : String) :
    ['.'].intercalate ((segments className).map String.toList) = className.toList := by
  have hsame : String.toList ∘ String.ofList = id := funext fun _ => String.toList_ofList
  rw [segments, List.map_map, hsame, List.map_id, Text.intercalate_splitAt]

theorem segments_injective : Function.Injective segments := by
  intro className other h
  rw [← String.toList_inj, ← intercalate_segments className, h, intercalate_segments]

/-- All names of a source file but the last one are segments. -/
theorem exists_segments_eq (className : String) : ∃ front last,
    segments className = front ++ [last] ∧ sourceNames className = front ++ [last ++ ".java"] := by
  have hne : segments className ≠ [] := by
    simp [segments, splitAt, Text.splitFrom_ne_nil]
  obtain ⟨front, last, hsegments⟩ : ∃ front last, segments className = front ++ [last] :=
    ⟨_, _, (List.dropLast_concat_getLast hne).symm⟩
  refine ⟨front, last, hsegments, ?_⟩
  rw [sourceNames, hsegments, List.modifyLast_concat]

/-- The names of a source file tell which class it is of. -/
theorem sourceNames_injective : Function.Injective sourceNames := by
  intro className other h
  obtain ⟨front, last, hsegments, hnames⟩ := exists_segments_eq className
  obtain ⟨front', last', hsegments', hnames'⟩ := exists_segments_eq other
  rw [hnames, hnames'] at h
  obtain ⟨rfl, hlast⟩ := List.append_inj' h rfl
  have hsame : last = last' := by simpa using hlast
  exact segments_injective (by rw [hsegments, hsegments', hsame])

theorem dot_not_mem_of_mem_segments {segment : String} (h : segment ∈ segments className) :
    '.' ∉ segment.toList := by
  obtain ⟨chars, hchars, rfl⟩ := List.mem_map.mp h
  rw [String.toList_ofList]
  exact Text.not_mem_of_mem_splitFrom List.not_mem_nil hchars

namespace IsSegmented

variable (h : IsSegmented className)
include h

theorem slash_not_mem {segment : String} (hsegment : segment ∈ segments className) :
    '/' ∉ segment.toList := by
  obtain ⟨chars, hchars, rfl⟩ := List.mem_map.mp hsegment
  rw [String.toList_ofList]
  exact fun hslash => h.no_slash (Text.mem_of_mem_splitAt hchars hslash)

/-- The names of a source file are those of entries in directories, and none of them leads up. -/
theorem isPart_of_mem_sourceNames {name : String} (hname : name ∈ sourceNames className) :
    Path.IsPart name ∧ name ≠ ".." := by
  obtain ⟨front, last, hsegments, hnames⟩ := exists_segments_eq className
  have hlast : last ∈ segments className := by simp [hsegments]
  rw [hnames, List.mem_append, List.mem_singleton] at hname
  rcases hname with hname | rfl
  · have hsegment : name ∈ segments className := by simp [hsegments, hname]
    have hdot := dot_not_mem_of_mem_segments hsegment
    refine ⟨⟨fun hempty => h.full (hempty ▸ hsegment), ?_, h.slash_not_mem hsegment⟩, ?_⟩
    · rintro rfl
      exact hdot (by decide)
    · rintro rfl
      exact hdot (by decide)
  · have hlong (short : String) (hshort : short.length < 5) : last ++ ".java" ≠ short := by
      rintro rfl
      have hending : ".java".length = 5 := rfl
      rw [String.length_append] at hshort
      omega
    refine ⟨⟨hlong "" (by decide), hlong "." (by decide), ?_⟩, hlong ".." (by decide)⟩
    rw [String.toList_append, List.mem_append, not_or]
    exact ⟨h.slash_not_mem hlast, by decide⟩

end IsSegmented

/-! ## The path of a source file -/

/-- A dot as a slash. -/
def slashed (c : Char) : Char := if c = '.' then '/' else c

/-- With slashes for dots a text is cut where it was cut before, and an ending comes to the last
part. -/
theorem splitFrom_slashed {chars ending : List Char} (hchars : '/' ∉ chars) (hending : '/' ∉ ending)
    (part : List Char) : splitFrom '/' part (chars.map slashed ++ ending) =
      (splitFrom '.' part chars).modifyLast (· ++ ending) := by
  induction chars generalizing part with
  | nil => rw [List.map_nil, List.nil_append, Text.splitFrom_of_not_mem hending]; rfl
  | cons c chars ih =>
    rw [List.mem_cons, not_or] at hchars
    rw [List.map_cons, List.cons_append, splitFrom, splitFrom]
    by_cases hc : c = '.'
    · -- A part ends here, and there is another one that takes the ending.
      rw [if_pos hc, slashed, if_pos hc, if_pos rfl, ih hchars.2]
      exact (List.modifyLast_append_of_right_ne_nil _ [_] _ (Text.splitFrom_ne_nil _ _ _)).symm
    · rw [if_neg hc, slashed, if_neg hc, if_neg (Ne.symm hchars.1), ih hchars.2]

theorem splitAt_slashed (h : IsSegmented className) :
    (splitAt '/' (className.toList.map slashed ++ ".java".toList)).map String.ofList =
      sourceNames className := by
  obtain ⟨front, last, hparts⟩ : ∃ front last, splitAt '.' className.toList = front ++ [last] :=
    ⟨_, _, (List.dropLast_concat_getLast (Text.splitFrom_ne_nil '.' [] className.toList)).symm⟩
  rw [splitAt, splitFrom_slashed h.no_slash (by decide), ← splitAt, sourceNames, segments, hparts]
  simp [List.modifyLast_concat]

/-- A text for a source file begins with a segment. -/
theorem rootOf_slashed (h : IsSegmented className) (ending : List Char) :
    Path.rootOf (className.toList.map slashed ++ ending) = .relative := by
  have hfull := h.full
  have hslash := h.no_slash
  rw [segments] at hfull
  cases hchars : className.toList with
  | nil => simp [hchars, splitAt, splitFrom] at hfull
  | cons c chars =>
    rw [hchars, List.mem_cons, not_or] at hslash
    have hdot : c ≠ '.' := by
      rintro rfl
      simp [hchars, splitAt, splitFrom] at hfull
    rw [List.map_cons, List.cons_append, slashed, if_neg hdot]
    exact Path.rootOf_of_ne (Ne.symm hslash.1) _

/-- A source file lies below the root by its names. -/
theorem sourceFile_eq (h : IsSegmented className) (p : Path) :
    sourceFile className p = ⟨p.root, p.parts ++ sourceNames className⟩ := by
  have htext : (String.ofList (className.toList.map slashed) ++ ".java").toList =
      className.toList.map slashed ++ ".java".toList := by
    rw [String.toList_append, String.toList_ofList]
  have hfull : ∀ chars ∈ splitAt '/' (className.toList.map slashed ++ ".java".toList),
      (!chars.isEmpty) = true := by
    intro chars hchars
    have hname : String.ofList chars ∈ sourceNames className := by
      rw [← splitAt_slashed h]
      exact List.mem_map_of_mem hchars
    have hne := (h.isPart_of_mem_sourceNames hname).1.toList_ne_nil
    rw [String.toList_ofList] at hne
    simpa using hne
  have hcomponents : Path.components (className.toList.map slashed ++ ".java".toList) =
      sourceNames className := by
    rw [Path.components, List.filter_eq_self.mpr hfull, splitAt_slashed h]
  have hdots : (sourceNames className).filter (· != ".") = sourceNames className := by
    rw [List.filter_eq_self]
    exact fun name hname => by simpa using (h.isPart_of_mem_sourceNames hname).1.ne_dot
  have hbelow : Path.ofString (String.ofList (className.toList.map slashed) ++ ".java") =
      ⟨.relative, sourceNames className⟩ := by
    rw [Path.ofString, htext, rootOf_slashed h, hcomponents, hdots]
  change p.append (Path.ofString (String.ofList (className.toList.map slashed) ++ ".java")) = _
  rw [hbelow]
  rfl

theorem isNormal_sourceFile (h : IsSegmented className) {p : Path} (hp : p.IsNormal) :
    (sourceFile className p).IsNormal := by
  rw [sourceFile_eq h]
  intro part hpart
  rcases List.mem_append.mp hpart with hpart | hpart
  · exact hp part hpart
  · exact (h.isPart_of_mem_sourceNames hpart).1

/-- Names that do not lead up lead down. -/
theorem foldl_lexicalStep {names : List String} (hnames : ∀ name ∈ names, name ≠ "." ∧ name ≠ "..")
    (l : Location) : names.foldl FileSystem.lexicalStep l = l ++ names := by
  induction names generalizing l with
  | nil => simp
  | cons name names ih =>
    obtain ⟨⟨hdot, hdots⟩, hrest⟩ := List.forall_mem_cons.mp hnames
    rw [List.foldl_cons, FileSystem.lexicalStep, if_neg hdot, if_neg hdots, ih hrest,
      List.append_assoc, List.singleton_append]

/-- **Source files.**  Below any root, the file of a class has the segments of the class as its
names, with the ending after the last.  It lies below the root wherever this is, and is the file of
no other class. -/
theorem sourceFile_below (h : IsSegmented className) (root : String) :
    sourceFile className (.ofString root) =
        ⟨(Path.ofString root).root, (Path.ofString root).parts ++ sourceNames className⟩ ∧
      Path.ofString (toString (sourceFile className (.ofString root))) =
        sourceFile className (.ofString root) ∧
      (∀ l : Location,
        (sourceFile className (.ofString root)).parts.foldl FileSystem.lexicalStep l =
          (Path.ofString root).parts.foldl FileSystem.lexicalStep l ++ sourceNames className) ∧
      ∀ other, IsSegmented other →
        toString (sourceFile className (.ofString root)) =
          toString (sourceFile other (.ofString root)) → className = other := by
  have hback := Path.ofString_toString (isNormal_sourceFile h (Path.isNormal_ofString root))
  refine ⟨sourceFile_eq h _, hback, fun l => ?_, fun other hother htexts => ?_⟩
  · have hdown : ∀ name ∈ sourceNames className, name ≠ "." ∧ name ≠ ".." := fun name hname =>
      (h.isPart_of_mem_sourceNames hname).imp_left Path.IsPart.ne_dot
    rw [sourceFile_eq h, List.foldl_append, foldl_lexicalStep hdown]
  · have hback' :=
      Path.ofString_toString (isNormal_sourceFile hother (Path.isNormal_ofString root))
    have hpaths := congrArg Path.ofString htexts
    rw [hback, hback', sourceFile_eq h, sourceFile_eq hother] at hpaths
    exact sourceNames_injective (List.append_cancel_left (congrArg Path.parts hpaths))

/-- A root with two slashes, a dot and two dots.  Classes whose guards meet have files of their
own. -/
theorem sourceFile_below_dots :
    (IsSegmented "p.q.A" ∧ IsSegmented "p.q_A") ∧
      sourceFile "p.q.A" (.ofString "//src/./gen/..") =
        ⟨.double, ["src", "gen", "..", "p", "q", "A.java"]⟩ ∧
      toString (sourceFile "p.q.A" (.ofString "//src/./gen/..")) ≠
        toString (sourceFile "p.q_A" (.ofString "//src/./gen/..")) := by
  have hclass : IsSegmented "p.q.A" := by decide +kernel
  have hother : IsSegmented "p.q_A" := by decide +kernel
  obtain ⟨hfile, -, -, hone⟩ := sourceFile_below hclass "//src/./gen/.."
  refine ⟨⟨hclass, hother⟩, ?_, fun htexts => absurd (hone "p.q_A" hother htexts) (by decide)⟩
  rw [hfile]
  decide +kernel

end MethodMacros
