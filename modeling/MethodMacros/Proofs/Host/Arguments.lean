import MethodMacros.Proofs.FileSystem.Absolute
import MethodMacros.Proofs.Host.Executing
import MethodMacros.Proofs.Tool
import Mathlib.Data.List.Forall2

/-!
# Paths on a command line

A tool can be started in another directory than the one that its user works in.  So the places where
classes are found and the header of javah are resolved beforehand, and the tool is given absolute
paths.  These lead to the same as what the user wrote, as long as they are not too long
(`sameFile_iff`).

The places are given as one list between colons, which the tool cuts apart.  A place that holds a
colon is cut too, and what comes after the colon is then read as a relative path.  `Host.Listable`
says that this does not happen, and `forall₂_placesOf_iff` that the tool gets the places that were
named exactly if it does not.

* `argumentOf`, `placesOf`, `Host.outputArgument`: how the arguments of a tool are read again.
* `Host.SameFile`: what a path leads to from outside, another one leads to from inside.
* `Host.Fits`: a path is not too long once it is absolute.

## Equally many

The hard direction is from the list that was cut to the places that were named.  The cut list has as
many places as were named, since the two correspond place by place.  So none of the named places can
have been cut into two (`forall₂_splitAt_iff`).
-/

namespace MethodMacros

open FileSystem (pathLimit)

/-- Going through a list with success has been successful for each of its members. -/
theorem forall₂_of_mapM {α β ε : Type} {f : α → Except ε β} {xs : List α} {ys : List β}
    (hxs : xs.mapM f = .ok ys) : List.Forall₂ (fun x y => f x = .ok y) xs ys := by
  induction xs generalizing ys with
  | nil =>
    cases hxs
    exact .nil
  | cons x xs ih =>
    rw [List.mapM_cons] at hxs
    obtain ⟨y, hy, hrest⟩ := bind_eq_ok hxs
    obtain ⟨ys', hys, hdone⟩ := bind_eq_ok hrest
    cases hdone
    exact .cons hy (ih hys)

/-! ## Reading a command line -/

/-- What follows an option where it stands first. -/
def argumentOf (option : String) : List String → Option String
  | [] => none
  | arg :: rest => if arg = option then rest.head? else argumentOf option rest

/-- The places where classes are found, as a tool takes them from its arguments. -/
def placesOf (args : List String) : List String :=
  match argumentOf "-classpath" args with
  | some places => (Text.splitAt ':' places.toList).map String.ofList
  | none => []

theorem argumentOf_append {option : String} {first rest : List String} (hfirst : option ∉ first) :
    argumentOf option (first ++ rest) = argumentOf option rest := by
  induction first with
  | nil => rfl
  | cons arg first ih =>
    rw [List.mem_cons, not_or] at hfirst
    rw [List.cons_append, argumentOf, if_neg (Ne.symm hfirst.1), ih hfirst.2]

theorem argumentOf_singleton (option arg : String) : argumentOf option [arg] = none := by
  simp [argumentOf]

namespace Host

variable {h : Host} {l : Location} {entry name path : String} {p place : Path}

/-! ## Paths that are handed over -/

/-- What a path leads to from the working directory, another path leads to from a second one. -/
def SameFile (h : Host) (l : Location) (outside inside : String) : Prop :=
  ∀ r, h.files.reach h.folder outside true = .ok r → h.files.reach l inside true = .ok r

/-- What a path leads to has a path from the root directory that is not too long. -/
def Fits (h : Host) (path : String) : Prop :=
  ∀ r, h.files.reach h.folder path true = .ok r →
    (absolutePath r.location).utf8ByteSize < pathLimit

/-- A path fits if the absolute path of what it leads to is short enough. -/
theorem fits_of_resolve (hshort :
      (absolutePath (h.files.resolve h.folder path).location).utf8ByteSize < pathLimit) :
    h.Fits path := by
  intro r hreach
  rwa [FileSystem.resolve_of_reach hreach] at hshort

/-- A place where classes are found can be put in a list between colons. -/
def Listable (h : Host) (entry : String) : Prop :=
  ∀ p, h.resolved (.ofString entry) = .ok p → ':' ∉ (toString p).toList

/-- A path that is resolved is the absolute path of the location that it is resolved to. -/
theorem resolved_eq_ok (hresolved : h.resolved p = .ok place) :
    place = .ofString (absolutePath (h.files.resolve h.folder (toString p)).location) := by
  unfold resolved resolve at hresolved
  split at hresolved
  · rename_i text hok
    cases hresolved
    split at hok
    · dsimp only at hok
      split at hok
      · cases hok
      · cases hok
        rfl
    · cases hok
  · cases hresolved
  · cases hresolved

/-- A path that was resolved is the path of what it led to. -/
theorem toString_of_resolved (hfolder : h.files.IsFolder h.folder)
    (hresolve : ∀ r, h.files.reach h.folder path true = .ok r →
      h.files.resolve h.folder (toString p) = ⟨r.location, true⟩)
    (hresolved : h.resolved p = .ok place) {r : FileSystem.Reached}
    (hreach : h.files.reach h.folder path true = .ok r) :
    toString place = absolutePath r.location := by
  rw [resolved_eq_ok hresolved, hresolve r hreach]
  exact toString_ofString_absolutePath (FileSystem.isPlaced_of_reach hfolder hreach).1

/-- It leads to the same in another directory exactly if it is not too long. -/
theorem sameFile_iff (hfolder : h.files.IsFolder h.folder)
    (hresolve : ∀ r, h.files.reach h.folder path true = .ok r →
      h.files.resolve h.folder (toString p) = ⟨r.location, true⟩)
    (hresolved : h.resolved p = .ok place) (l : Location) :
    h.SameFile l path (toString place) ↔ h.Fits path := by
  refine forall_congr' fun r => forall_congr' fun hreach => ?_
  rw [toString_of_resolved hfolder hresolve hresolved hreach,
    FileSystem.reach_absolutePath hfolder hreach]
  by_cases hlong : pathLimit ≤ (absolutePath r.location).utf8ByteSize
  · rw [if_pos hlong]
    exact iff_of_false (by simp) (by omega)
  · rw [if_neg hlong]
    exact iff_of_true rfl (by omega)

/-- The text that a user writes for a place leads where its normal form is resolved to. -/
theorem resolve_ofString (entry : String) (r : FileSystem.Reached)
    (hreach : h.files.reach h.folder entry true = .ok r) :
    h.files.resolve h.folder (toString (Path.ofString entry)) = ⟨r.location, true⟩ := by
  obtain ⟨total, hfollows⟩ := FileSystem.follows_of_walk (FileSystem.reach_eq_ok hreach)
  have hnormal := Path.isNormal_ofString entry
  have hstart : FileSystem.startOf h.folder (toString (Path.ofString entry)) =
      FileSystem.startOf h.folder entry := by
    rw [FileSystem.startOf, Path.rootOf_toString hnormal]
    rfl
  have hparts : (Path.components (toString (Path.ofString entry)).toList).filter (· != ".") =
      (Path.components entry.toList).filter (· != ".") :=
    Path.filter_components_toString hnormal
  refine FileSystem.Follows.resolve_eq (n := total) ?_
  rw [← FileSystem.Follows.filter_iff, hparts, FileSystem.Follows.filter_iff, hstart]
  exact hfollows.of_namesOf

/-- A path that was resolved starts from the root directory. -/
theorem root_of_resolved (hresolved : h.resolved p = .ok place) : place.root ≠ .relative := by
  rw [resolved_eq_ok hresolved, Path.ofString, absolutePath, String.toList_append]
  exact Path.rootOf_slash _

/-- So it is no option. -/
theorem ne_of_resolved {option : String} (hresolved : h.resolved p = .ok place)
    (hoption : Path.rootOf option.toList = .relative) : toString place ≠ option := by
  rintro rfl
  exact Path.rootOf_toString_ne (root_of_resolved hresolved) hoption

/-! ## Lists of places -/

variable {entries : List String} {places : List Path}

/-- All places of a list lead to the same in another directory exactly if they are not too long. -/
theorem forall₂_sameFile_iff (hfolder : h.files.IsFolder h.folder)
    (hplaces : List.Forall₂ (fun entry place => h.resolved (.ofString entry) = .ok place)
      entries places) (l : Location) :
    List.Forall₂ (h.SameFile l) entries (places.map toString) ↔ ∀ entry ∈ entries, h.Fits entry := by
  induction hplaces with
  | nil => simp
  | cons hresolved _ ih =>
    rw [List.map_cons, List.forall₂_cons, List.forall_mem_cons, ih,
      sameFile_iff hfolder (resolve_ofString _) hresolved]

/-- Places can be listed if what they are resolved to holds no colon. -/
theorem forall_listable_iff
    (hplaces : List.Forall₂ (fun entry place => h.resolved (.ofString entry) = .ok place)
      entries places) :
    (∀ s ∈ places.map fun place => (toString place).toList, ':' ∉ s) ↔
      ∀ entry ∈ entries, h.Listable entry := by
  induction hplaces with
  | nil => simp
  | cons hresolved _ ih =>
    rw [List.map_cons, List.forall_mem_cons, List.forall_mem_cons, ih, Listable, hresolved]
    simp

/-- A list of places that is cut at its colons leads to the same places exactly if none of them
holds a colon and none is too long. -/
theorem forall₂_splitAt_iff (hfolder : h.files.IsFolder h.folder) (hne : entries ≠ [])
    (hplaces : List.Forall₂ (fun entry place => h.resolved (.ofString entry) = .ok place)
      entries places) (l : Location) :
    List.Forall₂ (h.SameFile l) entries
        ((Text.splitAt ':' (":".intercalate (places.map toString)).toList).map String.ofList) ↔
      ∀ entry ∈ entries, h.Listable entry ∧ h.Fits entry := by
  have htexts : (":".intercalate (places.map toString)).toList =
      [':'].intercalate (places.map fun place => (toString place).toList) := by
    rw [String.toList_intercalate, List.map_map]
    rfl
  have hplaces' : (places.map fun place => (toString place).toList) ≠ [] := by
    intro hnil
    rw [List.map_eq_nil_iff] at hnil
    subst hnil
    cases hplaces
    exact hne rfl
  have hsplit (hnone : ∀ s ∈ places.map fun place => (toString place).toList, ':' ∉ s) :
      (Text.splitAt ':' ([':'].intercalate (places.map fun place => (toString place).toList))).map
        String.ofList = places.map toString := by
    rw [Text.splitAt_intercalate hnone hplaces', List.map_map]
    exact List.map_congr_left fun place _ => String.ofList_toList
  rw [htexts]
  constructor
  · intro hsame
    have hnone := (Text.length_splitAt_intercalate ':' hplaces').2 (by
      rw [List.length_map, ← hplaces.length_eq, hsame.length_eq, List.length_map])
    rw [hsplit hnone] at hsame
    exact fun entry hentry => ⟨(forall_listable_iff hplaces).mp hnone entry hentry,
      (forall₂_sameFile_iff hfolder hplaces l).mp hsame entry hentry⟩
  · intro hentries
    rw [hsplit ((forall_listable_iff hplaces).mpr fun entry hentry => (hentries entry hentry).1)]
    exact (forall₂_sameFile_iff hfolder hplaces l).mpr fun entry hentry => (hentries entry hentry).2

/-- The places on a command line lead to what their user named exactly if they can be listed and are
not too long. -/
theorem forall₂_placesOf_iff (hfolder : h.files.IsFolder h.folder) (first : List String)
    {arguments : List String} {className : String} (hfirst : "-classpath" ∉ first)
    (harguments : h.classpathArguments entries = .ok arguments) (l : Location) :
    List.Forall₂ (h.SameFile l) entries (placesOf (first ++ arguments ++ [className])) ↔
      ∀ entry ∈ entries, h.Listable entry ∧ h.Fits entry := by
  rw [placesOf, List.append_assoc, argumentOf_append hfirst]
  cases entries with
  | nil =>
    cases harguments
    rw [List.nil_append, argumentOf_singleton]
    simp
  | cons entry entries =>
    obtain ⟨places, hplaces, hdone⟩ := bind_eq_ok harguments
    cases hdone
    exact forall₂_splitAt_iff hfolder (List.cons_ne_nil entry entries) (forall₂_of_mapM hplaces) l

/-! ## The header on a command line -/

theorem outputArgument_append {first rest : List String} (hrest : outputArgument rest = some path) :
    outputArgument (first ++ rest) = some path := by
  induction first with
  | nil => exact hrest
  | cons arg first ih => rw [List.cons_append, outputArgument, ih]

/-- A list of places is no option, since its first place starts from the root directory. -/
theorem intercalate_ne (hplaces : List.Forall₂
      (fun entry place => h.resolved (.ofString entry) = .ok place) entries places)
    (hne : entries ≠ []) : ":".intercalate (places.map toString) ≠ "-o" := by
  cases hplaces with
  | nil => exact absurd rfl hne
  | @cons entry place entries places hresolved _ =>
    have hslash := slash_mem_of_root (Path.rootOf_toString_ne (root_of_resolved hresolved))
    have hmem : '/' ∈ (":".intercalate ((place :: places).map toString)).toList := by
      rw [String.toList_intercalate, List.map_map, List.map_cons]
      cases places with
      | nil => simpa [List.intercalate] using hslash
      | cons next places => simp [List.intercalate, hslash]
    intro heq
    rw [heq] at hmem
    exact absurd hmem (by decide)

/-- The places and the class are followed by no header. -/
theorem outputArgument_eq_none {arguments : List String} {className : String}
    (harguments : h.classpathArguments entries = .ok arguments) :
    outputArgument (arguments ++ [className]) = none := by
  have hclass : outputArgument [className] = none := by simp [outputArgument]
  cases entries with
  | nil =>
    cases harguments
    exact hclass
  | cons entry entries =>
    obtain ⟨places, hplaces, hdone⟩ := bind_eq_ok harguments
    have hne := intercalate_ne (forall₂_of_mapM hplaces) (List.cons_ne_nil entry entries)
    cases hdone
    simp [outputArgument, hne]

/-- A tool writes its header where it is told to, before the places and the class. -/
theorem outputArgument_eq (hresolved : h.resolved p = .ok place) (first : List String)
    {arguments : List String} {className : String}
    (harguments : h.classpathArguments entries = .ok arguments) :
    outputArgument (first ++ ["-o", toString place] ++ arguments ++ [className]) =
      some (toString place) := by
  have hno : toString place ≠ "-o" := ne_of_resolved hresolved (by decide)
  rw [List.append_assoc, List.append_assoc]
  refine outputArgument_append ?_
  simp only [List.cons_append, List.nil_append, outputArgument, outputArgument_eq_none harguments,
    hno, ↓reduceIte, List.head?_cons]

end Host

end MethodMacros
