import MethodMacros.Host.Program
import Mathlib.Data.List.Basic

/-!
# Paths in normal form

A path that has been read off a text is in normal form: none of its components is empty or a single
dot, and none holds a slash.  Such a path is written so that its text is read in the same way again.

* `Path.IsPart`, `Path.IsNormal`: the form; `isNormal_ofString` says that every text gives it.
* `ofString_toString`: a path is read again from its text.  Its root and its components are read
  apart, `rootOf_toString` and `filter_components_toString`.
* `namesOf_toString`, `startOf_toString`: the names that a walk along the path goes through, and
  where the walk starts.
* `acceptable_ofString`, `acceptable_of_name`: a path that can be passed on to the operating system,
  which is a matter of single characters.
-/

namespace MethodMacros

open Text (splitAt)

namespace Path

/-- A component that is written as it is. -/
structure IsPart (part : String) : Prop where
  ne_empty : part ≠ ""
  ne_dot : part ≠ "."
  no_slash : '/' ∉ part.toList

/-- All components of a path can be written as they are. -/
def IsNormal (p : Path) : Prop := ∀ part ∈ p.parts, IsPart part

variable {p q : Path}

/-- No component of a path is empty or holds a slash. -/
theorem of_mem_components {s : List Char} {name : String} (hname : name ∈ components s) :
    name ≠ "" ∧ '/' ∉ name.toList := by
  obtain ⟨chars, hchars, rfl⟩ := List.mem_map.mp hname
  obtain ⟨hchars, hempty⟩ := List.mem_filter.mp hchars
  refine ⟨?_, ?_⟩
  · rintro hnil
    rw [String.ofList_eq_empty_iff] at hnil
    rw [hnil] at hempty
    cases hempty
  · rw [String.toList_ofList]
    exact Text.not_mem_of_mem_splitFrom List.not_mem_nil hchars

/-- A component has no other characters than the text. -/
theorem mem_of_mem_components {s : List Char} {name : String} {c : Char}
    (hname : name ∈ components s) (hc : c ∈ name.toList) : c ∈ s := by
  obtain ⟨chars, hchars, rfl⟩ := List.mem_map.mp hname
  rw [String.toList_ofList] at hc
  exact Text.mem_of_mem_splitAt (List.mem_filter.mp hchars).1 hc

/-- A text that does not begin with a slash has a component. -/
theorem components_ne_nil {c : Char} (hc : c ≠ '/') (rest : List Char) :
    components (c :: rest) ≠ [] := by
  obtain ⟨more, parts, hparts⟩ := Text.exists_splitFrom_eq '/' [c] rest
  have hsplit : splitAt '/' (c :: rest) = ([c].reverse ++ more) :: parts := by
    rw [splitAt, Text.splitFrom, if_neg hc, hparts]
  rw [components, hsplit]
  simp

/-- What is read off a text is in normal form. -/
theorem isNormal_ofString (s : String) : (ofString s).IsNormal := by
  intro part hpart
  obtain ⟨hpart, hdot⟩ := List.mem_filter.mp hpart
  obtain ⟨hempty, hslash⟩ := of_mem_components hpart
  exact ⟨hempty, by simpa using hdot, hslash⟩

theorem IsNormal.of_subset (hp : p.IsNormal) (hq : ∀ part ∈ q.parts, part ∈ p.parts) :
    q.IsNormal := fun part hpart => hp part (hq part hpart)

theorem IsNormal.parent (hp : p.IsNormal) : p.parent.IsNormal :=
  hp.of_subset fun _ hpart => p.parts.dropLast_subset hpart

/-- The last component is one of the components, if there is one. -/
theorem name_ne_dots (p : Path) (hdots : ".." ∉ p.parts) : p.name ≠ ".." := by
  unfold name
  cases hlast : p.parts.getLast? with
  | none => simp
  | some part =>
    rintro rfl
    exact hdots (List.mem_of_getLast? hlast)

/-! ## The text of a path -/

theorem IsPart.toList_ne_nil {part : String} (hpart : IsPart part) : part.toList ≠ [] := by
  intro hnil
  exact hpart.ne_empty (String.toList_eq_nil_iff.mp hnil)

theorem toString_eq (hne : p.parts ≠ []) (hp : p.IsNormal) :
    toString p = p.root.text ++ "/".intercalate p.parts := by
  have htext : p.root.text ++ "/".intercalate p.parts ≠ "" := by
    obtain ⟨part, rest, hparts⟩ := List.exists_cons_of_ne_nil hne
    have hpart := hp part (hparts ▸ List.mem_cons_self)
    intro hempty
    obtain ⟨-, hjoined⟩ := String.append_eq_empty_iff.mp hempty
    have hchars := congrArg String.toList hjoined
    rw [hparts, String.toList_intercalate, List.map_cons] at hchars
    cases rest with
    | nil => exact hpart.toList_ne_nil (by simpa using hchars)
    | cons next rest => simp [List.intercalate] at hchars
  exact if_neg htext

/-- The text of a path as characters. -/
theorem toList_toString (hne : p.parts ≠ []) (hp : p.IsNormal) :
    (toString p).toList =
      p.root.text.toList ++ ['/'].intercalate (p.parts.map String.toList) := by
  rw [toString_eq hne hp, String.toList_append, String.toList_intercalate]
  rfl

theorem components_root (root : PathRoot) (s : List Char) :
    components (root.text.toList ++ s) = components s := by
  cases root <;> rfl

theorem components_toString (hne : p.parts ≠ []) (hp : p.IsNormal) :
    components (toString p).toList = p.parts := by
  have hslash : ∀ s ∈ p.parts.map String.toList, '/' ∉ s := by
    intro s hs
    obtain ⟨part, hpart, rfl⟩ := List.mem_map.mp hs
    exact (hp part hpart).no_slash
  have hfull : ∀ s ∈ p.parts.map String.toList, (!s.isEmpty) = true := by
    intro s hs
    obtain ⟨part, hpart, rfl⟩ := List.mem_map.mp hs
    simpa using (hp part hpart).toList_ne_nil
  rw [toList_toString hne hp, components_root, components,
    Text.splitAt_intercalate hslash (by simpa using hne), List.filter_eq_self.mpr hfull,
    List.map_map]
  have hsame : String.ofList ∘ String.toList = id := funext fun _ => String.ofList_toList
  rw [hsame, List.map_id]

/-- What follows the last slash is the last name. -/
theorem getLast?_namesOf {text name : String} {s : List Char}
    (htext : text.toList = s ++ '/' :: name.toList) (hname : name ≠ "")
    (hslash : '/' ∉ name.toList) : (FileSystem.namesOf text).getLast? = some name := by
  have hne : name.toList ≠ [] := fun hnil => hname (String.toList_eq_nil_iff.mp hnil)
  have hlast : text.toList.getLast? ≠ some '/' := by
    rw [htext, List.getLast?_append_of_ne_nil _ (List.cons_ne_nil _ _),
      List.getLast?_cons, List.getLast?_eq_some_getLast hne, Option.getD_some]
    intro hlast
    exact hslash (Option.some.inj hlast ▸ List.getLast_mem hne)
  have hcomponents : components text.toList = components s ++ [name] := by
    rw [htext, components, splitAt, Text.splitFrom_append_cons, splitAt,
      Text.splitFrom_of_not_mem hslash]
    simp [components, splitAt, hne]
  rw [FileSystem.namesOf, hcomponents]
  simp [hlast]

/-- No component ends with a slash, so none is added at the end of the text. -/
theorem getLast?_intercalate_ne {parts : List String} (hparts : ∀ part ∈ parts, IsPart part) :
    (['/'].intercalate (parts.map String.toList)).getLast? ≠ some '/' := by
  induction parts with
  | nil => simp [List.intercalate]
  | cons part rest ih =>
    have hpart := hparts part List.mem_cons_self
    have hrest := ih fun other hother => hparts other (List.mem_cons_of_mem _ hother)
    cases rest with
    | nil =>
      rw [List.map_singleton, List.intercalate_singleton]
      intro hlast
      exact hpart.no_slash (List.mem_of_getLast? hlast)
    | cons next rest =>
      have hnext := (hparts next (by simp)).toList_ne_nil
      have hjoined : ['/'].intercalate ((next :: rest).map String.toList) ≠ [] := by
        cases rest with
        | nil => simpa using hnext
        | cons other rest => simp [List.intercalate]
      rw [List.map_cons, Text.intercalate_cons_of_ne_nil _ _ (by simp),
        List.getLast?_append_of_ne_nil _ hjoined]
      exact hrest

/-- The names along the text of a path are its components. -/
theorem namesOf_toString (hne : p.parts ≠ []) (hp : p.IsNormal) :
    FileSystem.namesOf (toString p) = p.parts := by
  have hlast : (toString p).toList.getLast? ≠ some '/' := by
    have hjoined : ['/'].intercalate (p.parts.map String.toList) ≠ [] := by
      intro hnil
      have hcomponents := components_toString hne hp
      rw [toList_toString hne hp, components_root, hnil] at hcomponents
      exact hne hcomponents.symm
    rw [toList_toString hne hp, List.getLast?_append_of_ne_nil _ hjoined]
    exact getLast?_intercalate_ne hp
  rw [FileSystem.namesOf, components_toString hne hp]
  simp [hlast]

/-- The text of a path without components holds no name of an entry. -/
theorem namesOf_of_parts_nil (hnil : p.parts = []) :
    FileSystem.namesOf (toString p) = ["."] ∨ FileSystem.namesOf (toString p) = [] := by
  obtain ⟨root, parts⟩ := p
  subst hnil
  cases root with
  | relative => exact .inl (by decide)
  | single => exact .inr (by decide)
  | double => exact .inr (by decide)

/-- A text that starts with a slash is no relative path. -/
theorem rootOf_slash (s : List Char) : rootOf ('/' :: s) ≠ .relative := by
  unfold rootOf
  split <;> simp_all

/-- A text that starts with something else is one. -/
theorem rootOf_of_ne {c : Char} (hc : c ≠ '/') (s : List Char) : rootOf (c :: s) = .relative := by
  unfold rootOf
  split <;> simp_all

/-- A path that is not relative has a text that is not, whatever its components are. -/
theorem rootOf_toString_ne (hroot : p.root ≠ .relative) :
    rootOf (toString p).toList ≠ .relative := by
  obtain ⟨slashes, hslashes⟩ : ∃ slashes, p.root.text.toList = '/' :: slashes := by
    cases hp : p.root with
    | relative => exact absurd hp hroot
    | single => exact ⟨_, rfl⟩
    | double => exact ⟨_, rfl⟩
  have hempty : p.root.text ++ "/".intercalate p.parts ≠ "" := by
    intro hempty
    have hlist := congrArg String.toList hempty
    rw [String.toList_append, hslashes] at hlist
    cases hlist
  have htext : toString p = p.root.text ++ "/".intercalate p.parts := if_neg hempty
  rw [htext, String.toList_append, hslashes]
  exact rootOf_slash _

/-- The text of a path starts where the path does. -/
theorem rootOf_toString (hp : p.IsNormal) : rootOf (toString p).toList = p.root := by
  by_cases hne : p.parts = []
  · obtain ⟨root, parts⟩ := p
    subst hne
    cases root <;> rfl
  · obtain ⟨part, rest, hparts⟩ := List.exists_cons_of_ne_nil hne
    have hpart := hp part (hparts ▸ List.mem_cons_self)
    obtain ⟨c, chars, hchars⟩ := List.exists_cons_of_ne_nil hpart.toList_ne_nil
    have hc : c ≠ '/' := by
      rintro rfl
      exact hpart.no_slash (hchars ▸ List.mem_cons_self)
    have hstart : ∃ more, ['/'].intercalate (p.parts.map String.toList) = c :: more := by
      rw [hparts, List.map_cons, hchars]
      cases rest with
      | nil => exact ⟨chars, by simp⟩
      | cons next rest => exact ⟨_, rfl⟩
    obtain ⟨more, hmore⟩ := hstart
    rw [toList_toString hne hp, hmore]
    cases p.root <;> simp [PathRoot.text, rootOf, hc]

theorem startOf_toString (hp : p.IsNormal) (hq : q.IsNormal) (hroot : p.root = q.root)
    (cwd : Location) :
    FileSystem.startOf cwd (toString p) = FileSystem.startOf cwd (toString q) := by
  rw [FileSystem.startOf, FileSystem.startOf, rootOf_toString hp, rootOf_toString hq, hroot]

/-- The components of the text of a path are its components, dots left out. -/
theorem filter_components_toString (hp : p.IsNormal) :
    (components (toString p).toList).filter (· != ".") = p.parts := by
  by_cases hne : p.parts = []
  · obtain ⟨root, parts⟩ := p
    subst hne
    cases root <;> decide
  · rw [components_toString hne hp, List.filter_eq_self]
    exact fun part hpart => by simpa using (hp part hpart).ne_dot

/-- The text of a path is read as the path. -/
theorem ofString_toString (hp : p.IsNormal) : ofString (toString p) = p := by
  rw [ofString, rootOf_toString hp, filter_components_toString hp]

end Path

/-! ## Characters that no path can hold -/

theorem mem_toList_intercalate {c : Char} (hc : c ≠ '/') (parts : List String) :
    c ∈ ("/".intercalate parts).toList ↔ ∃ part ∈ parts, c ∈ part.toList := by
  induction parts with
  | nil => simp
  | cons part rest ih =>
    cases rest with
    | nil => simp
    | cons next rest =>
      have hslash : c ∉ "/".toList := by
        rw [show "/".toList = ['/'] from rfl, List.mem_singleton]
        exact hc
      rw [String.intercalate_cons_cons, String.toList_append, String.toList_append,
        List.mem_append, List.mem_append, ih]
      simp only [hslash, or_false, List.mem_cons, exists_eq_or_imp]

theorem not_mem_root_text (root : PathRoot) : '\x00' ∉ root.text.toList := by
  cases root <;> decide

/-- The text of a path holds a null character only within a component. -/
theorem null_mem_toString (p : Path) :
    '\x00' ∈ (toString p).toList ↔ ∃ part ∈ p.parts, '\x00' ∈ part.toList := by
  have htext : '\x00' ∈ (p.root.text ++ "/".intercalate p.parts).toList ↔
      ∃ part ∈ p.parts, '\x00' ∈ part.toList := by
    rw [String.toList_append, List.mem_append, mem_toList_intercalate (by decide)]
    simp only [not_mem_root_text, false_or]
  have htoString : toString p = if p.root.text ++ "/".intercalate p.parts = "" then "." else
      p.root.text ++ "/".intercalate p.parts := rfl
  rw [htoString, ← htext]
  split
  · rename_i hempty
    rw [hempty]
    decide
  · rfl

theorem acceptable_eq_true {text : String} : acceptable text = true ↔ '\x00' ∉ text.toList := by
  simp [acceptable]

/-- A path can be taken if all its components can. -/
theorem acceptable_toString (p : Path) :
    acceptable (toString p) = true ↔ ∀ part ∈ p.parts, acceptable part = true := by
  rw [acceptable_eq_true, null_mem_toString]
  constructor
  · intro hnone part hpart
    exact acceptable_eq_true.mpr fun hmem => hnone ⟨part, hpart, hmem⟩
  · rintro hparts ⟨part, hpart, hmem⟩
    exact acceptable_eq_true.mp (hparts part hpart) hmem

theorem acceptable_of_name {p : Path} (hparent : acceptable (toString p.parent) = true)
    (hname : acceptable p.name = true) : acceptable (toString p) = true := by
  refine (acceptable_toString p).mpr fun part hpart => ?_
  have hne : p.parts ≠ [] := List.ne_nil_of_mem hpart
  rw [← List.dropLast_concat_getLast hne, List.mem_append, List.mem_singleton] at hpart
  rcases hpart with hpart | rfl
  · exact (acceptable_toString p.parent).mp hparent part hpart
  · rwa [Path.name, List.getLast?_eq_some_getLast hne] at hname

/-- Reading a path adds no character to its components. -/
theorem acceptable_ofString {text : String} (htext : acceptable text = true) :
    acceptable (toString (Path.ofString text)) = true := by
  refine (acceptable_toString _).mpr fun part hpart => acceptable_eq_true.mpr fun hmem => ?_
  exact acceptable_eq_true.mp htext (Path.mem_of_mem_components (List.mem_filter.mp hpart).1 hmem)

end MethodMacros
