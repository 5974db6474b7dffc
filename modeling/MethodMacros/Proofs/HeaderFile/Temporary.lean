import MethodMacros.Proofs.FileSystem.Absolute
import MethodMacros.Proofs.FileSystem.Descending
import MethodMacros.Proofs.HeaderFile.Parents

/-!
# The temporary file of a header

Between its creation and its move the temporary file is the only thing, apart from directories above
the header, that a host has more than it had before.  `Host.Holds` states this, and that the path of
the file leads to it.  Whatever is done to the file keeps it so (`Host.Holds.of_sameBut`), and when
the file is removed nothing is left but the directories (`Host.Holds.grows_of_erase`).

## What else is kept

What is proved about a header needs more than this: that everything is undone if something fails, and
that nobody sees anything at the path before the header is in its place.  Both are proved by the same
walk along the action, so the walk is taken once, with a parameter: `KeptBeside` says of a property
of hosts that it does not mind new directories above the header, and nothing that is done to a file
beside it.  `throughout_prepare` and `throughout_discard` then hold for any such property, and
whatever operation fails.

## Why the file is beside the header

The temporary file lies in the same directory, and there it must have another name.  It has: the name
of the header with something before and after it (`Host.ne_of_temporaryPath`).
-/

namespace MethodMacros

/-- Two hosts differ in no file but one, and have the same working directory. -/
structure Host.SameBut (t : Location) (h after : Host) : Prop where
  folder_eq : after.folder = h.folder
  get?_eq : ∀ k, k ≠ t → after.files.get? k = h.files.get? k

theorem Host.SameBut.of_eq {h after : Host} (hfiles : after.files = h.files)
    (hfolder : after.folder = h.folder) (t : Location) : h.SameBut t after :=
  ⟨hfolder, fun k _ => by rw [hfiles]⟩

theorem Host.SameBut.of_insert {t : Location} {h after : Host} {e : Entry}
    (hfiles : after.files = h.files.insert t e) (hfolder : after.folder = h.folder) :
    h.SameBut t after :=
  ⟨hfolder, fun k hk => by rw [hfiles, FileSystem.get?_insert_of_ne _ _ hk]⟩

theorem Host.SameBut.trans {t : Location} {h mid after : Host} (hfirst : h.SameBut t mid)
    (hsecond : mid.SameBut t after) : h.SameBut t after :=
  ⟨hsecond.folder_eq.trans hfirst.folder_eq,
    fun k hk => (hsecond.get?_eq k hk).trans (hfirst.get?_eq k hk)⟩

/-- A host has a temporary file at the location `t`, next to what there was and to directories above
the header, and under another name than that of the header. -/
structure Host.Holds (p : Path) (h cur : Host) (temporary : String) (t : Location)
    (node : FileNode) : Prop where
  folder_eq : cur.folder = h.folder
  umask_eq : cur.umask = h.umask
  free : h.files.get? t = none
  found : cur.files.reach cur.folder temporary false = .ok (.found t (.file node))
  temporary_acceptable : acceptable temporary = true
  path_acceptable : acceptable (toString p) = true
  parent : cur.HasDirectory (toString p.parent)
  beside : ∀ d, t ≠ d ++ [p.name]
  keeps : h.files.Keeps cur.files
  made : ∀ k e, k ≠ t → h.files.get? k = none → cur.files.get? k = some e →
    cur.IsAbove p.parent k e

namespace Host

variable {p : Path} {h cur after : Host} {temporary : String} {t : Location}
variable {node node' : FileNode}

/-- Directories are found by the same paths where the ways are the same. -/
theorem IsAbove.transfer {k : Location} {e : Entry} (habove : cur.IsAbove p k e)
    (hfolder : after.folder = cur.folder) (hways : cur.files.KeepsWays after.files) :
    after.IsAbove p k e := by
  obtain ⟨n, mode, hpos, hle, rfl, hfound⟩ := habove
  exact ⟨n, mode, hpos, hle, rfl, hfolder ▸ hways.reach_directory hfound⟩

theorem HasDirectory.transfer {path : String} (hdirectory : cur.HasDirectory path)
    (hfolder : after.folder = cur.folder) (hways : cur.files.KeepsWays after.files) :
    after.HasDirectory path := by
  obtain ⟨hpath, l, mode, hfound⟩ := hdirectory
  exact ⟨hpath, l, mode, hfolder ▸ hways.reach_directory hfound⟩

namespace Holds

theorem get?_temporary (hholds : Holds p h cur temporary t node) :
    cur.files.get? t = some (.file node) :=
  FileSystem.get?_of_reach_found hholds.found

theorem ne_nil (hholds : Holds p h cur temporary t node) : t ≠ [] :=
  FileSystem.ne_nil_of_get?_eq_none hholds.free

theorem not_directory (hholds : Holds p h cur temporary t node) (mode : Nat) :
    cur.files.get? t ≠ some (.directory mode) := by
  simp [hholds.get?_temporary]

/-- The path of the temporary file leads to it in any case, since it is no link. -/
theorem found_true (hholds : Holds p h cur temporary t node) :
    cur.files.reach cur.folder temporary true = .ok (.found t (.file node)) :=
  FileSystem.reach_of_false (isFinal_file node) hholds.found

/-- What was there before the temporary file is somewhere else. -/
theorem ne_of_some (hholds : Holds p h cur temporary t node) {k : Location} {e : Entry}
    (hk : h.files.get? k = some e) : k ≠ t := by
  rintro rfl
  cases hholds.free.symm.trans hk

/-- No way leads through the temporary file. -/
theorem ne_of_way (hholds : Holds p h cur temporary t node) {k : Location} {e : Entry}
    (he : ¬ e.IsFile) (hk : cur.files.get? k = some e) : k ≠ t := by
  rintro rfl
  obtain rfl := Option.some.inj (hholds.get?_temporary.symm.trans hk)
  exact he ⟨node, rfl⟩

/-- A change to the temporary file changes no way. -/
theorem keepsWays (hholds : Holds p h cur temporary t node) (hsame : cur.SameBut t after) :
    cur.files.KeepsWays after.files := by
  intro k e he hk
  rw [hsame.get?_eq k (hholds.ne_of_way he hk), hk]

/-- Whatever is done to the temporary file, the host has nothing else. -/
theorem of_sameBut (hholds : Holds p h cur temporary t node) (hsame : cur.SameBut t after)
    (hat : after.files.get? t = some (.file node')) (humask : after.umask = cur.umask) :
    Holds p h after temporary t node' := by
  have hways := hholds.keepsWays hsame
  have hfound := FileSystem.reach_transfer hways hholds.found ⟨_, hat, isFinal_file node'⟩
  rw [FileSystem.Reached.location_found, FileSystem.reachedAt_of_some hat] at hfound
  exact {
    folder_eq := hsame.folder_eq.trans hholds.folder_eq
    umask_eq := humask.trans hholds.umask_eq
    free := hholds.free
    found := hsame.folder_eq ▸ hfound
    temporary_acceptable := hholds.temporary_acceptable
    path_acceptable := hholds.path_acceptable
    parent := hholds.parent.transfer hsame.folder_eq hways
    beside := hholds.beside
    keeps := fun k e hk => by
      rw [hsame.get?_eq k (hholds.ne_of_some hk)]
      exact hholds.keeps k e hk
    made := fun k e hne hnone hsome => by
      rw [hsame.get?_eq k hne] at hsome
      exact (hholds.made k e hne hnone hsome).transfer hsame.folder_eq hways }

/-- The temporary file is held as long as files stay what they are. -/
theorem of_eq (hholds : Holds p h cur temporary t node) (hfiles : after.files = cur.files)
    (hfolder : after.folder = cur.folder) (humask : after.umask = cur.umask) :
    Holds p h after temporary t node :=
  hholds.of_sameBut (.of_eq hfiles hfolder t) (hfiles ▸ hholds.get?_temporary) humask

/-- What is put in place of the temporary file is held. -/
theorem of_insert (hholds : Holds p h cur temporary t node)
    (hfiles : after.files = cur.files.insert t (.file node')) (hfolder : after.folder = cur.folder)
    (humask : after.umask = cur.umask) : Holds p h after temporary t node' := by
  have hadmits : cur.files.admits t (.file node') = true :=
    FileSystem.admits_of_some hholds.get?_temporary (.inr (by simp))
  refine hholds.of_sameBut (.of_insert hfiles hfolder) ?_ humask
  rw [hfiles, FileSystem.get?_insert_self hadmits hholds.ne_nil]

theorem sameBut_erase (hholds : Holds p h cur temporary t node)
    (hfiles : after.files = cur.files.erase t) (hfolder : after.folder = cur.folder) :
    cur.SameBut t after :=
  ⟨hfolder, fun k hk => by
    rw [hfiles, FileSystem.get?_erase_of_ne _ hholds.not_directory hk]⟩

/-- When the temporary file is removed only directories are left. -/
theorem grows_of_erase (hholds : Holds p h cur temporary t node)
    (hfiles : after.files = cur.files.erase t) (hfolder : after.folder = cur.folder)
    (humask : after.umask = cur.umask) : h.Grows p.parent after := by
  have hsame := hholds.sameBut_erase hfiles hfolder
  exact {
    folder_eq := hfolder.trans hholds.folder_eq
    umask_eq := humask.trans hholds.umask_eq
    keeps := fun k e hk => by
      rw [hsame.get?_eq k (hholds.ne_of_some hk)]
      exact hholds.keeps k e hk
    made := fun k e hnone hsome => by
      have hne : k ≠ t := by
        rintro rfl
        rw [hfiles, FileSystem.get?_erase_self _ hholds.ne_nil] at hsome
        cases hsome
      rw [hsame.get?_eq k hne] at hsome
      exact (hholds.made k e hne hnone hsome).transfer hfolder (hholds.keepsWays hsame) }

end Holds

/-! ## Its name -/

theorem slash_not_mem_temporaryLetters (n : Nat) : '/' ∉ temporaryLetters n := by
  have hletter : ∀ i < 26, Char.ofNat (97 + i) ≠ '/' := by decide
  intro hmem
  obtain ⟨i, -, hi⟩ := List.mem_map.mp hmem
  exact hletter _ (Nat.mod_lt _ (by decide)) hi

/-- The last name of a temporary path. -/
theorem getLast?_temporaryPath (h : Host) (directory : String) {stem : String} (n : Nat)
    (hstem : '/' ∉ stem.toList) :
    (FileSystem.namesOf (h.temporaryPath directory stem n)).getLast? =
      some ("." ++ stem ++ "." ++ String.ofList (temporaryLetters n) ++ ".tmp") := by
  have hslash : '/' ∉
      ("." ++ stem ++ "." ++ String.ofList (temporaryLetters n) ++ ".tmp").toList := by
    simp [hstem, slash_not_mem_temporaryLetters]
  have hjoin (atRoot : Bool) (root folder name : String) (hroot : ∃ s, root.toList = s ++ ['/']) :
      ∃ s, (if atRoot then root ++ name else root ++ folder ++ "/" ++ name).toList =
        s ++ '/' :: name.toList := by
    obtain ⟨s, hs⟩ := hroot
    cases atRoot with
    | true => exact ⟨s, by simp [hs]⟩
    | false => exact ⟨root.toList ++ folder.toList, by simp⟩
  have hpath : ∃ s, (h.temporaryPath directory stem n).toList = s ++ '/' ::
      ("." ++ stem ++ "." ++ String.ofList (temporaryLetters n) ++ ".tmp").toList := by
    refine hjoin _ _ _ _ ?_
    split
    · exact ⟨['/'], rfl⟩
    · exact ⟨[], rfl⟩
  obtain ⟨s, hs⟩ := hpath
  refine Path.getLast?_namesOf hs ?_ hslash
  intro hempty
  have hlength := congrArg String.length hempty
  simp at hlength

/-- A temporary file has another name than the header. -/
theorem ne_of_temporaryPath {directory stem : String} {n : Nat}
    (hfree : cur.files.reach cur.folder (cur.temporaryPath directory stem n) false =
      .ok (.vacant t)) (d : Location) : t ≠ d ++ [stem] := by
  obtain ⟨d', name, mode, rfl, -, hname⟩ := FileSystem.isChild_of_reach hfree
  intro heq
  obtain ⟨-, hlast⟩ := List.append_inj' heq rfl
  obtain rfl := List.singleton_inj.mp hlast
  have hcomponent := FileSystem.isComponent_of_mem_namesOf (List.mem_of_getLast? hname)
  rw [getLast?_temporaryPath _ _ _ hcomponent.2] at hname
  have hlength := congrArg String.length (Option.some.inj hname)
  simp only [String.length_append] at hlength
  have hdot : ".".length = 1 := rfl
  omega

/-! ## Its creation -/

/-- The ways in which a request for a temporary file is answered. -/
inductive Created (h : Host) (stem : String) : Except FileError String → Host → Prop where
  | created (temporary : String) (t : Location) (node : FileNode)
      (htemporary : acceptable temporary = true) (hstem : acceptable stem = true)
      (hnamed : ∃ directory n, temporary = h.temporaryPath directory stem n)
      (hfree : h.files.reach h.folder temporary false = .ok (.vacant t)) :
      Created h stem (.ok temporary) { h.later with files := h.files.insert t (.file node) }
  | failed (e : FileError) : Created h stem (.error e) h.later

/-- The name of a temporary file holds the name of the header. -/
theorem acceptable_stem {directory stem : String} {n : Nat}
    (hpath : acceptable (h.temporaryPath directory stem n) = true) : acceptable stem = true := by
  rw [acceptable_eq_true] at hpath ⊢
  intro hmem
  have hname : '\x00' ∈
      ("." ++ stem ++ "." ++ String.ofList (temporaryLetters n) ++ ".tmp").toList := by
    simp only [String.toList_append, List.mem_append, hmem, or_true, true_or]
  have hends : ∀ (c : Bool) (start other name : String), '\x00' ∈ name.toList →
      '\x00' ∈ (if c then start ++ name else other ++ name).toList := by
    intro c start other name hname
    cases c <;> simp [hname]
  exact hpath (hends _ _ _ _ hname)

theorem created_createTemporary (h : Host) (directory stem : String) (tries n : Nat) :
    Created h stem (h.createTemporary directory stem tries n).1
      { (h.createTemporary directory stem tries n).2 with
        clock := (h.createTemporary directory stem tries n).2.clock + tick } := by
  induction tries generalizing n with
  | zero => exact .failed _
  | succ tries ih =>
    unfold createTemporary
    cases hcreate : h.files.createFile h.folder h.umask 0o600 h.clock
        (h.temporaryPath directory stem n) with
    | ok files =>
      cases hpath : acceptable (h.temporaryPath directory stem n) with
      | false =>
        simp only [hcreate, hpath]
        exact .failed _
      | true =>
        obtain ⟨t, node, hfree, rfl⟩ := FileSystem.createFile_eq_ok hcreate
        simp only [hcreate, hpath]
        exact .created _ t node hpath (acceptable_stem hpath) ⟨_, _, rfl⟩ hfree
    | error e =>
      cases e with
      | alreadyExists =>
        simp only [hcreate]
        exact ih (n + 1)
      | _ =>
        cases hpath : acceptable (h.temporaryPath directory stem n) <;> simp only [hcreate, hpath] <;>
          exact .failed _

/-- A host that is asked for a temporary file creates one, or answers with an error. -/
theorem created_perform (h : Host) (directory stem : String) :
    h.Created stem (h.perform (.createTemporary directory stem)).1
      (h.perform (.createTemporary directory stem)).2 := by
  rw [perform, answer]
  exact created_createTemporary h directory stem 10000 0

/-- A temporary file that has been created is held. -/
theorem holds_of_free {made : Host} (hgrows : h.Grows p.parent made)
    (hparent : made.HasDirectory (toString p.parent)) (htemporary : acceptable temporary = true)
    (hname : acceptable p.name = true) (hbeside : ∀ d, t ≠ d ++ [p.name])
    (hfree : made.files.reach made.folder temporary false = .ok (.vacant t)) :
    h.Holds p { made.later with files := made.files.insert t (.file node) } temporary t node := by
  have hnone := FileSystem.get?_of_reach_vacant hfree
  have hkeeps := FileSystem.keeps_insert hnone (.file node)
  exact {
    folder_eq := hgrows.folder_eq
    umask_eq := hgrows.umask_eq
    free := by
      cases hget : h.files.get? t with
      | none => rfl
      | some e => cases hnone.symm.trans (hgrows.keeps t e hget)
    found := FileSystem.reach_insert_of_vacant (isFinal_file node) hfree
    temporary_acceptable := htemporary
    path_acceptable := acceptable_of_name hparent.1 hname
    parent := hparent.transfer rfl hkeeps.keepsWays
    beside := hbeside
    keeps := fun k e hget => hkeeps k e (hgrows.keeps k e hget)
    made := fun k e hne hk hsome => by
      have hmade : made.files.get? k = some e :=
        (FileSystem.get?_insert_of_ne made.files _ hne).symm.trans hsome
      exact (hgrows.made k e hk hmade).transfer rfl hkeeps.keepsWays }

end Host

/-! ## The steps before and after -/

namespace HeaderFile

open MethodMacros.Action

/-- What is kept until a header is moved to its place: the directories above the header can be made,
and anything can be done to a file beside it. -/
structure KeptBeside (p : Path) (kept : Host → Prop) : Prop where
  along : KeptAlong p.parent kept
  beside : ∀ {cur after : Host} {t : Location}, (∀ d, t ≠ d ++ [p.name]) →
    cur.HasDirectory (toString p.parent) → cur.files.KeepsWays after.files →
    cur.SameBut t after → kept cur → kept after

theorem keptBeside_true (p : Path) : KeptBeside p fun _ => True where
  along := ⟨fun _ _ => trivial, fun _ _ _ _ => trivial⟩
  beside _ _ _ _ _ := trivial

variable {faults : Faults} {kept : Host → Prop} {p : Path} {h cur after : Host}
variable {temporary : String} {t : Location} {node : FileNode}

/-- What is kept does not depend on the temporary file. -/
theorem KeptBeside.of_sameBut (hkept : KeptBeside p kept) (hholds : h.Holds p cur temporary t node)
    (hsame : cur.SameBut t after) (hcur : kept cur) : kept after :=
  hkept.beside hholds.beside hholds.parent (hholds.keepsWays hsame) hsame hcur

/-- An answer that is an error ends an attempt. -/
theorem throughout_attempt {α : Type} {answering : Answering} {during : Host → Prop}
    {a : Action FileError (Except FileError α)} {ok : α → Host → Prop}
    {failed : FileError → Host → Prop}
    (ha : a.Throughout answering during cur (fun x after =>
      match x with
      | .ok value => ok value after
      | .error e => failed e after) failed) :
    (attempt a).Throughout answering during cur ok failed := by
  refine .bind (ha.imp ?_ fun _ _ => id)
  rintro (e | value) after hx
  · exact throughout_throw hx
  · exact throughout_pure hx

theorem throughout_createTemporary {ε : Type} {during : Host → Prop} {directory stem : String}
    {ok : Except FileError String → Host → Prop} {failed : ε → Host → Prop} (hduring : during h)
    (hok : ∀ x after, h.Created stem x after → ok x after) :
    (request (.createTemporary directory stem)).Throughout (Host.performDespite faults) during h ok
      failed := by
  refine throughout_despite hduring (hok _ _ (h.created_perform directory stem)) ?_
  rintro fault -
  exact hok _ _ (.failed fault.error)

/-- **Preparing.**  In the end there is a temporary file, or at most directories have been made. -/
theorem throughout_prepare (faults : Faults) (hkept : KeptBeside p kept) (hh : kept h) :
    (prepare p).Throughout (Host.performDespite faults) kept h
      (fun temporary after => kept after ∧ ∃ t node, h.Holds p after temporary t node)
      fun _ after => kept after ∧ h.Grows p.parent after := by
  refine .bind ((throughout_makeDirectories faults hkept.along hh _).imp ?_ fun _ _ => id)
  rintro _ made ⟨hmade, hgrows, hparent⟩
  refine throughout_attempt (throughout_createTemporary hmade ?_)
  intro x after hcreated
  cases hcreated with
  | created temporary t node htemporary hname hnamed hfree =>
    have hbeside : ∀ d, t ≠ d ++ [p.name] := by
      obtain ⟨directory, n, rfl⟩ := hnamed
      exact Host.ne_of_temporaryPath hfree
    have hkeeps := FileSystem.keeps_insert (FileSystem.get?_of_reach_vacant hfree) (.file node)
    exact ⟨hkept.beside hbeside hparent hkeeps.keepsWays (.of_insert rfl rfl) hmade, t, node,
      Host.holds_of_free hgrows hparent htemporary hname hbeside hfree⟩
  | failed e =>
    exact ⟨hkept.along.agrees hmade (.later made), hgrows.trans (.later p.parent made)⟩

/-- **Discarding.**  If the temporary file can be removed, nothing but directories is left, and this
does not fail. -/
theorem throughout_discard (faults : Faults) (hkept : KeptBeside p kept)
    (hholds : h.Holds p cur temporary t node) (hcur : kept cur) :
    (discard temporary).Throughout (Host.performDespite faults) kept cur
      (fun _ after => kept after ∧ (faults.SpareRemovals → h.Grows p.parent after))
      fun _ after => kept after ∧ ¬ faults.SpareRemovals := by
  refine .bind (throughout_removeFile hcur ?_ ?_)
  · intro x after heffected
    obtain ⟨rfl, rfl⟩ := heffected.eq_of_ok hholds.temporary_acceptable
      (FileSystem.removeFile_of_reach hholds.found)
    exact throughout_pure ⟨hkept.of_sameBut hholds (hholds.sameBut_erase rfl rfl) hcur,
      fun _ => hholds.grows_of_erase rfl rfl rfl⟩
  · intro fault hfault
    have hlater := hkept.along.agrees hcur (.later cur)
    have hfails : ¬ faults.SpareRemovals := by
      intro hspares
      cases (hspares cur temporary).symm.trans hfault
    split
    · exact throughout_pure ⟨hlater, fun hspares => absurd hspares hfails⟩
    · exact throughout_pure ⟨hlater, fun hspares => absurd hspares hfails⟩
    · exact throughout_throw ⟨hlater, hfails⟩

end HeaderFile

end MethodMacros
