import MethodMacros.Proofs.FileSystem.Effects
import MethodMacros.Proofs.Host.Asking
import MethodMacros.Proofs.Host.Faults
import MethodMacros.Proofs.Path

/-!
# Making the directories above a header

Before a header is written the directories above it are made, as far as they are missing.  However
that ends, nothing that was there is touched, and all that is new is directories that the first
components of the path lead to.  `Host.Grows` is this relation between the host before and after; it
is kept by every single request, so it holds of the whole recursion.

* `Host.IsAbove`: an entry that one of the first components of a path leads to.
* `Host.Grows`: what the directories leave, with `Grows.trans` for one step after the other and
  `Grows.of_upTo` for the directories of a shorter path.
* `Host.grows_makeDirectory`: one directory.  It is made where nothing was, and where nothing was
  there is nothing below either, so no path that led somewhere leads anywhere else now.
* `makesParents_makeOr`, `makesParents_makeDirectory`, `makesParents_makeDirectories`: the
  recursion.  A directory is made; if its parent is missing the parent is made first, and then it is
  tried again.

## What else is kept

That the host grows is not all that is wanted of the new directories.  Readers must not see them at
the path of a header either.  So the recursion is followed with a parameter: `KeptAlong` says that a
property of hosts is kept by every new directory along a path, and by the clock and the messages.
`keptAlong_grows` is the instance for growing, and `KeptAlong.and` joins two properties.
`throughout_makeDirectories` gives the property at every moment, and both at the end, whatever
operation fails.
-/

namespace MethodMacros

/-- A path up to one of its components. -/
def Path.upTo (p : Path) (n : Nat) : Path := ⟨p.root, p.parts.take n⟩

@[simp] theorem Path.upTo_length (p : Path) : p.upTo p.parts.length = p := by
  rw [upTo, List.take_length]

theorem Path.upTo_parent (p : Path) {n : Nat} (hn : n ≤ p.parts.length) :
    (p.upTo n).parent = p.upTo (n - 1) := by
  have htake : (p.parts.take n).dropLast = p.parts.take (n - 1) := by
    rw [List.dropLast_eq_take, List.length_take, Nat.min_eq_left hn, List.take_take,
      Nat.min_eq_left (Nat.sub_le n 1)]
  exact congrArg (Path.mk p.root) htake

/-- A path leads to a directory. -/
def Host.HasDirectory (h : Host) (path : String) : Prop :=
  acceptable path = true ∧
    ∃ l mode, h.files.reach h.folder path true = .ok (.found l (.directory mode))

/-- An entry is a directory to which the first components of a path lead. -/
def Host.IsAbove (h : Host) (p : Path) (k : Location) (e : Entry) : Prop :=
  ∃ n mode, 0 < n ∧ n ≤ p.parts.length ∧ e = .directory mode ∧
    h.files.reach h.folder (toString (p.upTo n)) false = .ok (.found k e)

/-- One host has all that another one has, and otherwise only directories along a path. -/
structure Host.Grows (p : Path) (h after : Host) : Prop where
  folder_eq : after.folder = h.folder
  umask_eq : after.umask = h.umask
  keeps : h.files.Keeps after.files
  made : ∀ k e, h.files.get? k = none → after.files.get? k = some e → after.IsAbove p k e

namespace Host.Grows

variable {p : Path} {h h' h'' : Host}

/-- A host with the same files has not grown. -/
theorem of_eq (hfiles : h'.files = h.files) (hfolder : h'.folder = h.folder)
    (humask : h'.umask = h.umask) : Grows p h h' where
  folder_eq := hfolder
  umask_eq := humask
  keeps k e hget := by rw [hfiles, hget]
  made k e hnone hsome := by
    rw [hfiles, hnone] at hsome
    cases hsome

theorem of_agrees (hagrees : h.Agrees h') : Grows p h h' := by
  obtain ⟨clock, messages, rfl⟩ := hagrees
  exact of_eq rfl rfl rfl

theorem refl (p : Path) (h : Host) : Grows p h h := of_eq rfl rfl rfl

theorem later (p : Path) (h : Host) : Grows p h h.later := of_eq rfl rfl rfl

/-- What a path leads to is found by it in a host that has grown. -/
theorem reach_found {path : String} {followLast : Bool} {k : Location} {e : Entry}
    (hgrows : Grows p h h') (hfound : h.files.reach h.folder path followLast = .ok (.found k e)) :
    h'.files.reach h'.folder path followLast = .ok (.found k e) := by
  rw [hgrows.folder_eq]
  exact hgrows.keeps.reach_found hfound

theorem trans (hfirst : Grows p h h') (hsecond : Grows p h' h'') : Grows p h h'' where
  folder_eq := hsecond.folder_eq.trans hfirst.folder_eq
  umask_eq := hsecond.umask_eq.trans hfirst.umask_eq
  keeps k e hget := hsecond.keeps k e (hfirst.keeps k e hget)
  made k e hnone hsome := by
    cases hget : h'.files.get? k with
    | none => exact hsecond.made k e hget hsome
    | some e' =>
      obtain rfl := Option.some.inj ((hsecond.keeps k e' hget).symm.trans hsome)
      obtain ⟨n, mode, hpos, hle, he, hfound⟩ := hfirst.made k e' hnone hget
      exact ⟨n, mode, hpos, hle, he, hsecond.reach_found hfound⟩

/-- Directories along the beginning of a path are directories along the path. -/
theorem of_upTo {n : Nat} (hn : n ≤ p.parts.length) (hgrows : Grows (p.upTo n) h h') :
    Grows p h h' where
  folder_eq := hgrows.folder_eq
  umask_eq := hgrows.umask_eq
  keeps := hgrows.keeps
  made k e hnone hsome := by
    obtain ⟨m, mode, hpos, hle, he, hfound⟩ := hgrows.made k e hnone hsome
    have hmn : m ≤ n := Nat.le_trans hle (List.length_take_le n p.parts)
    have hupTo : (p.upTo n).upTo m = p.upTo m := by
      have htake : (p.parts.take n).take m = p.parts.take m := by
        rw [List.take_take, Nat.min_eq_left hmn]
      exact congrArg (Path.mk p.root) htake
    exact ⟨m, mode, hpos, Nat.le_trans hmn hn, he, hupTo ▸ hfound⟩

end Host.Grows

/-! ## One directory -/

namespace FileSystem

variable {fs : FileSystem} {cwd : Location}

/-- A path that leads to a free place has a component. -/
theorem parts_ne_nil_of_vacant {p : Path} {followLast : Bool} {l : Location}
    (h : fs.reach cwd (toString p) followLast = .ok (.vacant l)) : p.parts ≠ [] := by
  intro hparts
  obtain ⟨name, hmem, hdot, -, -⟩ := exists_isEntryName h
  rcases Path.namesOf_of_parts_nil hparts with hnames | hnames
  · rw [hnames, List.mem_singleton] at hmem
    exact hdot hmem
  · rw [hnames] at hmem
    cases hmem

end FileSystem

/-- Making the directory of a path adds nothing else. -/
theorem Host.grows_makeDirectory {h : Host} {p : Path} {files : FileSystem}
    (hpath : acceptable (toString p) = true)
    (hmade : h.files.makeDirectory h.folder h.umask (toString p) = .ok files) :
    h.Grows p { h.later with files := files } ∧
      ({ h.later with files := files } : Host).HasDirectory (toString p) := by
  obtain ⟨l, mode, hvacant, rfl⟩ := FileSystem.makeDirectory_eq_ok hmade
  have hfinal := isFinal_directory mode
  have hfound := FileSystem.reach_insert_of_vacant hfinal hvacant
  have hnone := FileSystem.get?_of_reach_vacant hvacant
  refine ⟨⟨rfl, rfl, FileSystem.keeps_insert hnone _, fun k e hk hsome => ?_⟩,
    hpath, l, mode, FileSystem.reach_of_false hfinal hfound⟩
  have hkl : k = l := by
    refine Classical.byContradiction fun hne => ?_
    rw [FileSystem.get?_insert_of_ne h.files _ hne, hk] at hsome
    cases hsome
  subst hkl
  rw [FileSystem.get?_insert_self (FileSystem.admits_of_vacant hvacant _)
    (FileSystem.ne_nil_of_get?_eq_none hnone)] at hsome
  obtain rfl := Option.some.inj hsome
  have hpos := List.length_pos_iff.mpr (FileSystem.parts_ne_nil_of_vacant hvacant)
  exact ⟨p.parts.length, mode, hpos, Nat.le_refl _, rfl, by rwa [Path.upTo_length]⟩

/-- An entry of the right kind is a directory. -/
theorem Host.IsKind.hasDirectory {h : Host} {path : String} (hkind : h.IsKind .directory path) :
    h.HasDirectory path := by
  obtain ⟨hpath, s, hstatus, hs⟩ := hkind
  obtain ⟨l, e, hreach, rfl⟩ := FileSystem.status_eq_ok hstatus
  cases e with
  | directory mode => exact ⟨hpath, l, mode, hreach⟩
  | file node => cases hs
  | link target => cases hs

/-! ## Actions -/

namespace HeaderFile

open MethodMacros.Action

/-- What is kept while directories along a path are made: it does not depend on the clock or on the
messages, and each of the directories can be made without harm to it. -/
structure KeptAlong (p : Path) (kept : Host → Prop) : Prop where
  agrees : ∀ {h after : Host}, kept h → h.Agrees after → kept after
  made : ∀ {h : Host} {n : Nat} {files : FileSystem}, n ≤ p.parts.length → kept h →
    acceptable (toString (p.upTo n)) = true →
    h.files.makeDirectory h.folder h.umask (toString (p.upTo n)) = .ok files →
    kept { h.later with files := files }

/-- Something holds all the time, and an action ends where a path leads to a directory, or it
fails. -/
def MakesParents (faults : Faults) (kept : Host → Prop) (p : Path) (h : Host)
    (a : Action FileError Unit) : Prop :=
  a.Throughout (Host.performDespite faults) kept h
    (fun _ after => kept after ∧ after.HasDirectory (toString p)) fun _ after => kept after

variable {faults : Faults} {kept : Host → Prop} {p : Path} {h : Host}

/-- A directory that cannot be made is accepted only if it is there. -/
theorem makesParents_acceptDirectory (hkept : KeptAlong p kept) (q : Path) (hh : kept h)
    (e : FileError) : MakesParents faults kept q h (acceptDirectory q e) := by
  cases e with
  | nullByte => exact throughout_throw hh
  | refused errno path target =>
    have hlater := hkept.agrees hh (.later h)
    refine .bind (((looks_hasKind .directory q).throughout_looking
      (fun _ => hkept.agrees hh) (ensures_hasKind .directory q h)).imp ?_ ?_)
    · rintro b after ⟨rfl, hb⟩
      cases b with
      | true => exact throughout_pure ⟨hlater, (hb.mp rfl).hasDirectory⟩
      | false => exact throughout_throw hlater
    · rintro e' after ⟨rfl, -⟩
      exact hlater

/-- One directory is made, or `next` is done where the one above it is missing. -/
def makeOr (p : Path) (next : String → Option String → Action FileError Unit) :
    Action FileError Unit := do
  match ← request (.makeDirectory (toString p)) with
  | .ok () => return ()
  | .error (.refused .noEntry path target) => next path target
  | .error e => acceptDirectory p e

theorem makeDirectory_eq (p : Path) :
    makeDirectory p = makeOr p fun path target => throw (.refused .noEntry path target) := rfl

theorem makeDirectories_zero (p : Path) :
    makeDirectories 0 p = makeOr p fun path target => throw (.refused .noEntry path target) := by
  unfold makeDirectories makeOr
  rfl

theorem makeDirectories_succ (n : Nat) (p : Path) :
    makeDirectories (n + 1) p = makeOr p fun path target => (do
      if p.parent = p then throw (.refused .noEntry path target)
      makeDirectories n p.parent
      makeDirectory p) := by
  conv => lhs; unfold makeDirectories
  rfl

theorem makesParents_makeOr (hkept : KeptAlong p kept) {n : Nat} (hn : n ≤ p.parts.length)
    (hh : kept h) {next : String → Option String → Action FileError Unit}
    (hnext : ∀ path target, MakesParents faults kept (p.upTo n) h.later (next path target)) :
    MakesParents faults kept (p.upTo n) h (makeOr (p.upTo n) next) := by
  have haccept (e : FileError) :
      MakesParents faults kept (p.upTo n) h.later (acceptDirectory (p.upTo n) e) :=
    makesParents_acceptDirectory hkept (p.upTo n) (hkept.agrees hh (.later h)) e
  refine .bind (throughout_makeDirectory hh ?_ ?_)
  · intro x after heffected
    cases heffected with
    | done files hpath hresult =>
      exact throughout_pure
        ⟨hkept.made hn hh hpath hresult, (Host.grows_makeDirectory hpath hresult).2⟩
    | nullByte hpath => exact haccept _
    | refused errno hpath hresult =>
      cases errno with
      | noEntry => exact hnext _ _
      | _ => exact haccept _
  · rintro fault -
    cases fault.error with
    | nullByte => exact haccept _
    | refused errno path target =>
      cases errno with
      | noEntry => exact hnext _ _
      | _ => exact haccept _

theorem makesParents_makeDirectory (hkept : KeptAlong p kept) {n : Nat} (hn : n ≤ p.parts.length)
    (hh : kept h) : MakesParents faults kept (p.upTo n) h (makeDirectory (p.upTo n)) := by
  rw [makeDirectory_eq]
  exact makesParents_makeOr hkept hn hh fun _ _ => throughout_throw (hkept.agrees hh (.later h))

/-- Making the directories along a path, however many of them are missing. -/
theorem makesParents_makeDirectories (hkept : KeptAlong p kept) {n : Nat} (hn : n ≤ p.parts.length)
    (hh : kept h) (tries : Nat) :
    MakesParents faults kept (p.upTo n) h (makeDirectories tries (p.upTo n)) := by
  induction tries generalizing n h with
  | zero =>
    rw [makeDirectories_zero]
    exact makesParents_makeOr hkept hn hh fun _ _ => throughout_throw (hkept.agrees hh (.later h))
  | succ tries ih =>
    rw [makeDirectories_succ]
    refine makesParents_makeOr hkept hn hh fun path target => ?_
    have hlater := hkept.agrees hh (.later h)
    by_cases htop : (p.upTo n).parent = p.upTo n
    · rw [if_pos htop]
      exact throughout_throw hlater
    · rw [if_neg htop, p.upTo_parent hn]
      refine .bind ((ih (n := n - 1) (by omega) hlater).imp ?_ fun _ _ => id)
      rintro _ after ⟨hafter, -⟩
      exact makesParents_makeDirectory hkept hn hafter

/-- All that happens is that directories are made. -/
theorem keptAlong_grows (p : Path) (start : Host) : KeptAlong p (start.Grows p) where
  agrees := by
    intro h after hgrows hagrees
    exact hgrows.trans (.of_agrees hagrees)
  made hn hgrows hpath hmade :=
    hgrows.trans ((Host.grows_makeDirectory hpath hmade).1.of_upTo hn)

/-- Two things that are kept are kept together. -/
theorem KeptAlong.and {kept' : Host → Prop} (hkept : KeptAlong p kept)
    (hkept' : KeptAlong p kept') : KeptAlong p fun cur => kept cur ∧ kept' cur where
  agrees := by
    rintro h after ⟨hh, hh'⟩ hagrees
    exact ⟨hkept.agrees hh hagrees, hkept'.agrees hh' hagrees⟩
  made := by
    rintro h n files hn ⟨hh, hh'⟩ hpath hmade
    exact ⟨hkept.made hn hh hpath hmade, hkept'.made hn hh' hpath hmade⟩

/-- **Directories.**  In the end all directories along a path are there, or some may be, and nothing
else has changed, whatever fails on the way. -/
theorem throughout_makeDirectories (faults : Faults) (hkept : KeptAlong p kept) (hh : kept h)
    (tries : Nat) :
    (makeDirectories tries p).Throughout (Host.performDespite faults) kept h
      (fun _ after => kept after ∧ h.Grows p after ∧ after.HasDirectory (toString p))
      fun _ after => kept after ∧ h.Grows p after := by
  have hmakes : MakesParents faults (fun cur => kept cur ∧ h.Grows p cur)
      (p.upTo p.parts.length) h (makeDirectories tries (p.upTo p.parts.length)) :=
    makesParents_makeDirectories (hkept.and (keptAlong_grows p h)) p.parts.length.le_refl
      ⟨hh, .refl p h⟩ tries
  rw [Path.upTo_length, MakesParents] at hmakes
  refine (hmakes.during_imp fun _ => And.left).imp ?_ fun _ _ => id
  rintro _ after ⟨⟨hafter, hgrows⟩, hparent⟩
  exact ⟨hafter, hgrows, hparent⟩

end HeaderFile

end MethodMacros
