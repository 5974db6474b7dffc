import MethodMacros.Proofs.FileSystem.Resolving
import MethodMacros.Proofs.Path

/-!
# Absolute paths

A path that starts from the root directory means the same from wherever it is followed.  So a path
can be handed to someone who works in another directory once it has been resolved: what it leads to
here, the absolute path of that location leads to from everywhere, and without any link
(`FileSystem.reach_absolutePath`).

This needs that the working directory is there, and that its location can be written as a path.
`IsFolder` says so.  From the root directory it can be reached by its names then, since a file
system is a tree.

* `IsFolder.child`, `IsFolder.startOf`, `IsFolder.stops`: a walk from such a directory goes through
  such directories only.
* `IsPlaced`, `isPlaced_of_reach`: so the location that it arrives at can be written as a path.
* `IsFolderIfAny`: the working directory may be gone.  Then no relative path leads anywhere, and an
  absolute one does not start there, so what arrives anywhere is placed all the same.
-/

namespace MethodMacros

namespace FileSystem

open MethodMacros.Path (IsPart components)

variable {fs : FileSystem} {cwd cwd' d l k : Location} {r : Reached} {stop : Stop}
variable {n mode : Nat} {name target path : String} {names rest : List String}

/-- A directory whose location can be written as a path: all names are such as can be given to an
entry.  What it lies in is a directory anyway, since a file system is a tree. -/
structure IsFolder (fs : FileSystem) (l : Location) : Prop where
  isPart : ∀ name ∈ l, IsPart name
  isEntryName : ∀ name ∈ l, IsEntryName name
  isDirectory : ∃ mode, fs.get? l = some (.directory mode)

namespace IsFolder

theorem nil (fs : FileSystem) : fs.IsFolder [] where
  isPart := by simp
  isEntryName := by simp
  isDirectory := ⟨0o755, rfl⟩

theorem dropLast (hl : fs.IsFolder l) : fs.IsFolder l.dropLast where
  isPart := fun name hname => hl.isPart name (l.dropLast_subset hname)
  isEntryName := fun name hname => hl.isEntryName name (l.dropLast_subset hname)
  isDirectory := hl.isDirectory.elim fun _ hmode => fs.exists_directory hmode

theorem child (hl : fs.IsFolder l) (hpart : IsPart name) (hname : IsEntryName name)
    (hget : fs.get? (l ++ [name]) = some (.directory mode)) : fs.IsFolder (l ++ [name]) where
  isPart := by
    intro other hother
    rcases List.mem_append.mp hother with hother | hother
    · exact hl.isPart other hother
    · exact List.mem_singleton.mp hother ▸ hpart
  isEntryName := by
    intro other hother
    rcases List.mem_append.mp hother with hother | hother
    · exact hl.isEntryName other hother
    · exact List.mem_singleton.mp hother ▸ hname
  isDirectory := ⟨mode, hget⟩

theorem startOf (hl : fs.IsFolder l) (target : String) : fs.IsFolder (startOf l target) := by
  unfold FileSystem.startOf
  split
  · exact hl
  · exact nil fs

/-- What such a directory lies below is a directory too. -/
theorem exists_directory (hl : fs.IsFolder l) (hd : d <+: l) :
    ∃ mode, fs.get? d = some (.directory mode) := by
  obtain ⟨mode, hmode⟩ := hl.isDirectory
  obtain ⟨more, rfl⟩ := hd
  by_cases hmore : more = []
  · exact ⟨mode, by rwa [hmore, List.append_nil] at hmode⟩
  · exact fs.exists_directory_of_prefix hmore hmode

/-- A walk from a directory is the end of one from the root directory. -/
theorem stops (hl : fs.IsFolder l) (h : Stops fs true l names stop) :
    Stops fs true [] (l ++ names) stop := by
  suffices hbelow : ∀ below d, l = d ++ below → Stops fs true d (below ++ names) stop from
    hbelow l [] rfl
  intro below
  induction below with
  | nil =>
    rintro d hd
    rw [List.append_nil] at hd
    subst hd
    exact h
  | cons name below ih =>
    intro d hd
    have hname : name ∈ l := by simp [hd]
    obtain ⟨mode, hmode⟩ := hl.exists_directory (hd ▸ List.prefix_append d _)
    have hlonger : l = (d ++ [name]) ++ below := by rw [hd, List.append_assoc, List.singleton_append]
    obtain ⟨mode', hmode'⟩ := hl.exists_directory (hlonger ▸ List.prefix_append (d ++ [name]) below)
    exact .enter hmode (hl.isEntryName name hname) (isFinal_directory mode') hmode' (ih _ hlonger)

end IsFolder

/-! ## What a walk arrives at -/

/-- A name that can stand between the slashes of a path. -/
def IsComponent (name : String) : Prop := name ≠ "" ∧ '/' ∉ name.toList

theorem IsComponent.isPart (h : IsComponent name) (hname : IsEntryName name) : IsPart name :=
  ⟨h.1, hname.1, h.2⟩

/-- What is reached is reached by the names on the way from the root directory too, and these can be
written in a path. -/
def IsPlaced (fs : FileSystem) (r : Reached) : Prop :=
  (Path.mk .single r.location).IsNormal ∧ Stops fs true [] r.location (.reached r)

/-- What is so of a stop on a walk: where it arrives is placed, and where it comes to a link it is
in a directory, with names to go on by. -/
def Stop.IsPlaced (fs : FileSystem) : Stop → Prop
  | .reached r => FileSystem.IsPlaced fs r
  | .failed _ => True
  | .link d _ rest => fs.IsFolder d ∧ ∀ name ∈ rest, IsComponent name

theorem Stops.isPlaced (h : Stops fs true l names stop) (hl : fs.IsFolder l)
    (hnames : ∀ name ∈ names, IsComponent name) : stop.IsPlaced fs := by
  induction h with
  | @here l e h => exact ⟨hl.isPart, by simpa using hl.stops (.here h)⟩
  | stay _ _ ih => exact ih hl fun name hname => hnames name (List.mem_cons_of_mem _ hname)
  | up _ _ ih => exact ih hl.dropLast fun name hname => hnames name (List.mem_cons_of_mem _ hname)
  | @vacant l mode name hmode hname hnone =>
    refine ⟨?_, hl.stops (.vacant hmode hname hnone)⟩
    intro other hother
    rcases List.mem_append.mp hother with hother | hother
    · exact hl.isPart other hother
    · exact List.mem_singleton.mp hother ▸ (hnames name List.mem_cons_self).isPart hname
  | lastLink _ _ _ hlast => cases hlast
  | link _ _ _ _ => exact ⟨hl, fun name hname => hnames name (List.mem_cons_of_mem _ hname)⟩
  | @enter l mode name e rest stop hmode hname he hget h ih =>
    have hpart := (hnames name List.mem_cons_self).isPart hname
    cases e with
    | link target => exact absurd rfl (he target)
    | directory mode' =>
      exact ih (hl.child hpart hname hget) fun name hname => hnames name (List.mem_cons_of_mem _ hname)
    | file node =>
      obtain ⟨rfl, rfl⟩ := h.of_file hget
      refine ⟨?_, hl.stops (.enter hmode hname he hget h)⟩
      intro other hother
      rcases List.mem_append.mp hother with hother | hother
      · exact hl.isPart other hother
      · exact List.mem_singleton.mp hother ▸ hpart

theorem isComponent_of_mem_namesOf (hname : name ∈ namesOf path) : IsComponent name := by
  unfold namesOf at hname
  dsimp only at hname
  split at hname
  · rcases List.mem_append.mp hname with hname | hname
    · exact Path.of_mem_components hname
    · obtain rfl := List.mem_singleton.mp hname
      exact ⟨by decide, by decide⟩
  · exact Path.of_mem_components hname

theorem isPlaced_of_walk (hl : fs.IsFolder l) (hnames : ∀ name ∈ names, IsComponent name)
    (h : fs.walk true n l names = .ok r) : fs.IsPlaced r := by
  induction n generalizing l names with
  | zero =>
    rcases walk_eq_ok h with hstops | ⟨m, _, _, _, hm, -, -⟩
    · exact hstops.isPlaced hl hnames
    · cases hm
  | succ n ih =>
    rcases walk_eq_ok h with hstops | ⟨m, directory, target, rest, hm, hstops, hwalk⟩
    · exact hstops.isPlaced hl hnames
    · obtain rfl := Nat.succ.inj hm
      obtain ⟨hdirectory, hrest⟩ := hstops.isPlaced hl hnames
      refine ih (hdirectory.startOf target) (fun name hname => ?_) hwalk
      rcases List.mem_append.mp hname with hname | hname
      · exact isComponent_of_mem_namesOf hname
      · exact hrest name hname

theorem isPlaced_of_reach (hcwd : fs.IsFolder cwd) (h : fs.reach cwd path true = .ok r) :
    fs.IsPlaced r :=
  isPlaced_of_walk (hcwd.startOf path) (fun _ => isComponent_of_mem_namesOf) (reach_eq_ok h)

end FileSystem

/-! ## The path of a location -/

variable {fs : FileSystem} {cwd l : Location} {r : FileSystem.Reached} {path : String}

/-- A location whose names can be written is the path that they make up. -/
theorem absolutePath_eq (hl : (Path.mk .single l).IsNormal) :
    absolutePath l = toString (Path.mk .single l) := by
  by_cases hnil : l = []
  · subst hnil
    decide
  · rw [Path.toString_eq hnil hl]
    rfl

/-- Such a path is written as it was read. -/
theorem toString_ofString_absolutePath (hl : (Path.mk .single l).IsNormal) :
    toString (Path.ofString (absolutePath l)) = absolutePath l := by
  rw [absolutePath_eq hl, Path.ofString_toString hl]

/-- What is placed is reached by the path of its location, from wherever that is followed, unless
the path is too long. -/
theorem FileSystem.IsPlaced.reach_absolutePath (hplaced : fs.IsPlaced r) (cwd' : Location) :
    fs.reach cwd' (absolutePath r.location) true =
      if pathLimit ≤ (absolutePath r.location).utf8ByteSize then .error .nameTooLong
      else .ok r := by
  obtain ⟨hnormal, hstops⟩ := hplaced
  have hnames : namesOf (toString (Path.mk .single r.location)) = r.location := by
    by_cases hnil : r.location = []
    · rw [hnil]
      decide
    · exact Path.namesOf_toString hnil hnormal
  have hstart : startOf cwd' (toString (Path.mk .single r.location)) = [] := by
    rw [startOf, Path.rootOf_toString hnormal]
  have hempty : absolutePath r.location ≠ "" := by
    intro hempty
    have hlist := congrArg String.toList hempty
    rw [absolutePath, String.toList_append] at hlist
    cases hlist
  rw [reach, if_neg hempty]
  refine ite_congr rfl (fun _ => rfl) fun _ => ?_
  rw [absolutePath_eq hnormal, hnames, hstart]
  exact hstops.walk_eq linkLimit

/-- **Absolute paths.**  The path of what a path leads to leads there from everywhere, unless it is
too long. -/
theorem FileSystem.reach_absolutePath (hcwd : fs.IsFolder cwd)
    (h : fs.reach cwd path true = .ok r) (cwd' : Location) :
    fs.reach cwd' (absolutePath r.location) true =
      if pathLimit ≤ (absolutePath r.location).utf8ByteSize then .error .nameTooLong
      else .ok r :=
  (isPlaced_of_reach hcwd h).reach_absolutePath cwd'

/-! ## Working directories that may be gone -/

/-- A working directory lies in directories up to the root, if it is there at all. -/
def FileSystem.IsFolderIfAny (fs : FileSystem) (cwd : Location) : Prop :=
  ∀ mode, fs.get? cwd = some (.directory mode) → fs.IsFolder cwd

theorem FileSystem.IsFolder.isFolderIfAny (hcwd : fs.IsFolder cwd) : fs.IsFolderIfAny cwd :=
  fun _ _ => hcwd

/-- Names lead nowhere but from a directory. -/
theorem FileSystem.get?_start_of_walk {followLast : Bool} {n : Nat} {names : List String}
    (hne : names ≠ []) (h : fs.walk followLast n l names = .ok r) :
    ∃ mode, fs.get? l = some (.directory mode) := by
  have hstops : ∃ stop, Stops fs followLast l names stop := by
    rcases walk_eq_ok h with hstops | ⟨_, _, _, _, -, hstops, -⟩
    · exact ⟨_, hstops⟩
    · exact ⟨_, hstops⟩
  obtain ⟨stop, hstops⟩ := hstops
  cases hstops with
  | here => exact absurd rfl hne
  | stay hl | up hl | vacant hl | lastLink hl | link hl | enter hl => exact ⟨_, hl⟩

/-- A path that leads somewhere is followed from a directory. -/
theorem FileSystem.isFolder_startOf (hcwd : fs.IsFolderIfAny cwd)
    (h : fs.reach cwd path true = .ok r) : fs.IsFolder (startOf cwd path) := by
  cases hpath : path.toList with
  | nil =>
    obtain rfl := String.toList_eq_nil_iff.mp hpath
    cases h
  | cons c rest =>
    by_cases hc : c = '/'
    · have hroot : Path.rootOf path.toList ≠ .relative := by
        rw [hpath, hc]
        exact Path.rootOf_slash rest
      have hstart : startOf cwd path = [] := by
        unfold startOf
        split
        · exact absurd ‹_› hroot
        · rfl
      rw [hstart]
      exact .nil fs
    · have hstart : startOf cwd path = cwd := by
        rw [startOf, hpath, Path.rootOf_of_ne hc]
      have hnames : namesOf path ≠ [] := by
        have hcomponents := Path.components_ne_nil hc rest
        unfold namesOf
        dsimp only
        rw [hpath]
        split
        · simp
        · exact hcomponents
      have hwalk := reach_eq_ok h
      rw [hstart] at hwalk ⊢
      obtain ⟨mode, hmode⟩ := get?_start_of_walk hnames hwalk
      exact hcwd mode hmode

/-- What a path leads to is placed, also if it does not start from the working directory. -/
theorem FileSystem.IsFolderIfAny.isPlaced (hcwd : fs.IsFolderIfAny cwd)
    (h : fs.reach cwd path true = .ok r) : fs.IsPlaced r :=
  isPlaced_of_walk (isFolder_startOf hcwd h) (fun _ => isComponent_of_mem_namesOf) (reach_eq_ok h)

end MethodMacros
