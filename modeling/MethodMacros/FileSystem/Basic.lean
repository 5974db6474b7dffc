/-!
# File systems

A file system maps locations to entries.  A location is the list of names on the way from the root
directory; links are entries of their own, so a location says nothing about where a path that runs
through links ends up.

The entries are kept in a list, of which only the view `get?` matters: it is what the operations are
described by.  All of them are made of two: `insert` puts an entry at a location, and `erase` takes
away what is there.

## Trees

Each entry lies in a directory, and a file system carries this with its entries, as `IsTree`.  So it
need not be assumed anywhere that nothing lies below a file, below a link or below a free place.  The
price is paid by the two operations: `erase` takes away what lies below a location together with it,
and `insert` does nothing where the new entry would lie outside of all directories, or where the
entries of a directory would lose it.  A path never leads to such a place, so nobody who walks there
notices the difference.
-/

namespace MethodMacros

/-- The names on the way from the root directory. -/
abbrev Location := List String

/-- What a stand-in for a tool does when it is run. -/
structure Behaviour where
  /-- The file, seen from where the program runs, that receives the arguments. -/
  recordArguments : Option String := none
  standardOutput : List UInt8 := []
  standardError : List UInt8 := []
  /-- What is written to the file named after the last option for output. -/
  outputText : Option (List UInt8) := none
  killSignal : Option Nat := none
  exitCode : Int := 0
  deriving DecidableEq, Repr

/-- A regular file: its permissions, the time of its last change in nanoseconds, its bytes, and what
it does if it is run. -/
structure FileNode where
  mode : Nat
  modified : Int
  content : List UInt8
  behaviour : Option Behaviour := none
  deriving DecidableEq, Repr

/-- What can be found at a location. -/
inductive Entry where
  | directory (mode : Nat)
  | file (node : FileNode)
  | link (target : String)
  deriving DecidableEq, Repr

/-- An entry is a directory. -/
def Entry.isDirectory : Entry → Bool
  | .directory _ => true
  | _ => false

theorem Entry.isDirectory_iff {e : Entry} : e.isDirectory = true ↔ ∃ mode, e = .directory mode := by
  cases e <;> simp [isDirectory]

/-- The entry that a list holds for a location.  The root directory always exists. -/
def entryAmong (entries : List (Location × Entry)) (l : Location) : Option Entry :=
  if l = [] then some (.directory 0o755) else entries.lookup l

/-- Each entry of a list lies in a directory. -/
class IsTree (entries : List (Location × Entry)) : Prop where
  parent : ∀ entry ∈ entries, (entryAmong entries entry.1.dropLast).any Entry.isDirectory = true

/-- What lies in the root directory lies in a directory. -/
instance isTree_singleton (name : String) (e : Entry) : IsTree [([name], e)] :=
  ⟨by simp [entryAmong, Entry.isDirectory]⟩

/-- A file system. -/
@[ext]
structure FileSystem where
  entries : List (Location × Entry)
  [isTree : IsTree entries]
  deriving DecidableEq, Repr

/-- Only what is kept of a list of entries is found in it. -/
theorem lookup_filter (keep : Location → Bool) (k : Location) :
    ∀ entries : List (Location × Entry),
      (entries.filter fun entry => keep entry.1).lookup k =
        if keep k then entries.lookup k else none
  | [] => by simp
  | (m, e) :: rest => by
      have ih := lookup_filter keep k rest
      by_cases hm : k = m
      · subst hm
        cases hkeep : keep k <;> simp [hkeep, ih]
      · have hk : (k == m) = false := by simp [hm]
        rw [List.filter_cons, List.lookup_cons, hk]
        split
        · rw [List.lookup_cons, hk, ih]
        · rw [ih]

theorem entryAmong_filter (keep : Location → Bool) {k : Location} (hk : k ≠ [])
    (entries : List (Location × Entry)) :
    entryAmong (entries.filter fun entry => keep entry.1) k =
      if keep k then entryAmong entries k else none := by
  rw [entryAmong, if_neg hk, lookup_filter, entryAmong, if_neg hk]

/-- An entry at the head of a list, in place of one further back. -/
theorem entryAmong_cons_filter {k l : Location} (e : Entry) (h : k ≠ l)
    (entries : List (Location × Entry)) :
    entryAmong ((l, e) :: entries.filter fun entry => entry.1 != l) k = entryAmong entries k := by
  have hk : (k == l) = false := by simp [h]
  have hkeep : (k != l) = true := by simp [h]
  rw [entryAmong, List.lookup_cons, hk, lookup_filter (· != l), if_pos hkeep, entryAmong]

namespace FileSystem

/-- The file system with the entries of a list, which can be checked to be a tree. -/
def ofList (entries : List (Location × Entry))
    (parent : ∀ entry ∈ entries,
      (entryAmong entries entry.1.dropLast).any Entry.isDirectory = true := by decide) :
    FileSystem :=
  { entries := entries
    isTree := ⟨parent⟩ }

/-- The entry at a location. -/
def get? (fs : FileSystem) (l : Location) : Option Entry := entryAmong fs.entries l

/-- An entry can be put at a location: in a directory, and not in place of another directory unless
it is one itself. -/
def admits (fs : FileSystem) (l : Location) (e : Entry) : Bool :=
  (fs.get? l.dropLast).any Entry.isDirectory &&
    (e.isDirectory || !(fs.get? l).any Entry.isDirectory)

theorem isTree_insert {fs : FileSystem} {l : Location} {e : Entry} (h : fs.admits l e = true) :
    IsTree ((l, e) :: fs.entries.filter fun entry => entry.1 != l) where
  parent := by
    simp only [admits, get?, Bool.and_eq_true, Bool.or_eq_true, Bool.not_eq_true'] at h
    obtain ⟨hparent, hplace⟩ := h
    rintro ⟨k, e'⟩ hentry
    have hold : (entryAmong fs.entries k.dropLast).any Entry.isDirectory = true := by
      rcases List.mem_cons.mp hentry with heq | hmem
      · cases heq
        exact hparent
      · exact fs.isTree.parent (k, e') (List.mem_filter.mp hmem).1
    by_cases hk : k.dropLast = l
    · -- The entry lies in the new one, which is a directory if the old one was.
      rw [hk] at hold ⊢
      have hdirectory : e.isDirectory = true := by
        rcases hplace with hplace | hplace
        · exact hplace
        · cases hold.symm.trans hplace
      by_cases hl : l = []
      · simp [entryAmong, hl, Entry.isDirectory]
      · simp [entryAmong, hl, hdirectory]
    · rw [entryAmong_cons_filter e hk]
      exact hold

/-- Puts an entry at a location where it can be, in place of what was there. -/
def insert (fs : FileSystem) (l : Location) (e : Entry) : FileSystem :=
  if h : fs.admits l e = true then
    { entries := (l, e) :: fs.entries.filter fun entry => entry.1 != l
      isTree := isTree_insert h }
  else fs

theorem isTree_erase (fs : FileSystem) (l : Location) :
    IsTree (fs.entries.filter fun entry => !l.isPrefixOf entry.1) where
  parent := by
    intro entry hentry
    obtain ⟨hmem, hkept⟩ := List.mem_filter.mp hentry
    have hparent := fs.isTree.parent entry hmem
    by_cases hroot : entry.1.dropLast = []
    · rwa [hroot] at hparent ⊢
    · have hbelow : (!l.isPrefixOf entry.1.dropLast) = true := by
        rw [Bool.not_eq_true', ← Bool.not_eq_true, List.isPrefixOf_iff_prefix] at hkept ⊢
        exact fun hbelow => hkept (hbelow.trans (List.dropLast_prefix _))
      rwa [entryAmong_filter (fun k => !l.isPrefixOf k) hroot, if_pos hbelow]

/-- Removes the entry at a location, and all that lies below it. -/
def erase (fs : FileSystem) (l : Location) : FileSystem :=
  { entries := fs.entries.filter fun entry => !l.isPrefixOf entry.1
    isTree := fs.isTree_erase l }

/-- The entries below a location, by their paths from there, in the order of those paths. -/
def listing (fs : FileSystem) (l : Location) : List (String × Entry) :=
  let below := fs.entries.filter fun (k, _) => l.isPrefixOf k && k != l
  let named := below.map fun (k, e) => ("/".intercalate (k.drop l.length), e)
  named.mergeSort fun a b => decide (a.1 < b.1) || a.1 == b.1

/-! ## What is found -/

/-- Each entry lies in a directory. -/
theorem exists_directory (fs : FileSystem) {l : Location} {e : Entry} (h : fs.get? l = some e) :
    ∃ mode, fs.get? l.dropLast = some (.directory mode) := by
  by_cases hl : l = []
  · exact ⟨0o755, by rw [hl]; rfl⟩
  · rw [get?, entryAmong, if_neg hl] at h
    obtain ⟨before, after, hentries, -⟩ := List.lookup_eq_some_iff.mp h
    have hmem : (l, e) ∈ fs.entries := by
      rw [hentries]
      simp
    obtain ⟨e', hget, hdirectory⟩ := (Option.any_eq_true _ _).mp (fs.isTree.parent _ hmem)
    obtain ⟨mode, rfl⟩ := Entry.isDirectory_iff.mp hdirectory
    exact ⟨mode, hget⟩

/-- What an entry lies below is a directory. -/
theorem exists_directory_of_prefix (fs : FileSystem) {l more : Location} {e : Entry}
    (hmore : more ≠ []) (h : fs.get? (l ++ more) = some e) :
    ∃ mode, fs.get? l = some (.directory mode) := by
  induction more generalizing l with
  | nil => exact absurd rfl hmore
  | cons name more ih =>
    have hchild : ∃ e', fs.get? (l ++ [name]) = some e' := by
      by_cases hnil : more = []
      · exact ⟨e, by rwa [hnil] at h⟩
      · rw [List.append_cons] at h
        obtain ⟨mode, hmode⟩ := ih hnil h
        exact ⟨_, hmode⟩
    obtain ⟨e', hchild⟩ := hchild
    have hparent := fs.exists_directory hchild
    rwa [List.dropLast_concat] at hparent

theorem admits_eq_true {fs : FileSystem} {l : Location} {e : Entry} {mode : Nat}
    (hparent : fs.get? l.dropLast = some (.directory mode))
    (hplace : e.isDirectory = true ∨ ∀ mode, fs.get? l ≠ some (.directory mode)) :
    fs.admits l e = true := by
  have hplace' : (e.isDirectory || !(fs.get? l).any Entry.isDirectory) = true := by
    rcases hplace with hplace | hplace
    · rw [hplace, Bool.true_or]
    · cases hget : fs.get? l with
      | none => simp
      | some e' =>
        cases e' with
        | directory mode => exact absurd hget (hplace mode)
        | file node => simp [Entry.isDirectory]
        | link target => simp [Entry.isDirectory]
  rw [admits, hparent, hplace']
  rfl

/-- What is put in place of an entry, other than a directory, can be there. -/
theorem admits_of_some {fs : FileSystem} {l : Location} {e e' : Entry} (h : fs.get? l = some e)
    (hplace : e'.isDirectory = true ∨ ∀ mode, e ≠ .directory mode) : fs.admits l e' = true := by
  obtain ⟨mode, hparent⟩ := fs.exists_directory h
  refine admits_eq_true hparent (hplace.imp id fun hplace mode hmode => ?_)
  exact hplace mode (Option.some.inj (h.symm.trans hmode))

/-- What was put at a location where it can be is found there. -/
theorem get?_insert_self {fs : FileSystem} {l : Location} {e : Entry} (hadmits : fs.admits l e = true)
    (h : l ≠ []) : (fs.insert l e).get? l = some e := by
  rw [insert, dif_pos hadmits]
  simp [get?, entryAmong, h]

/-- Putting an entry at one location changes no other. -/
theorem get?_insert_of_ne (fs : FileSystem) {l k : Location} (e : Entry) (h : k ≠ l) :
    (fs.insert l e).get? k = fs.get? k := by
  unfold insert
  split
  · exact entryAmong_cons_filter e h fs.entries
  · rfl

theorem get?_erase (fs : FileSystem) (l : Location) {k : Location} (hk : k ≠ []) :
    (fs.erase l).get? k = if l <+: k then none else fs.get? k := by
  have hfilter := entryAmong_filter (fun k => !l.isPrefixOf k) hk fs.entries
  rw [get?, erase, hfilter, get?]
  by_cases hbelow : l <+: k
  · rw [if_pos hbelow, List.isPrefixOf_iff_prefix.mpr hbelow]
    rfl
  · rw [if_neg hbelow, if_pos]
    rwa [Bool.not_eq_true', ← Bool.not_eq_true, List.isPrefixOf_iff_prefix]

/-- What was removed is gone. -/
theorem get?_erase_self (fs : FileSystem) {l : Location} (h : l ≠ []) :
    (fs.erase l).get? l = none := by
  rw [get?_erase fs l h, if_pos (List.prefix_refl l)]

/-- What is left after a removal was there before. -/
theorem get?_of_get?_erase {fs : FileSystem} {l k : Location} {e : Entry}
    (h : (fs.erase l).get? k = some e) : fs.get? k = some e := by
  by_cases hk : k = []
  · rwa [hk] at h ⊢
  · rw [get?_erase fs l hk] at h
    split at h
    · cases h
    · exact h

/-- Removing an entry, other than a directory, changes no other. -/
theorem get?_erase_of_ne (fs : FileSystem) {l k : Location}
    (hl : ∀ mode, fs.get? l ≠ some (.directory mode)) (h : k ≠ l) :
    (fs.erase l).get? k = fs.get? k := by
  by_cases hk : k = []
  · rw [hk]
    rfl
  · rw [get?_erase fs l hk]
    split
    · rename_i hbelow
      obtain ⟨more, rfl⟩ := hbelow
      have hmore : more ≠ [] := by
        rintro rfl
        exact h (List.append_nil l)
      cases hget : fs.get? (l ++ more) with
      | none => rfl
      | some e =>
        obtain ⟨mode, hmode⟩ := fs.exists_directory_of_prefix hmore hget
        exact absurd hmode (hl mode)
    · rfl

end FileSystem

end MethodMacros
