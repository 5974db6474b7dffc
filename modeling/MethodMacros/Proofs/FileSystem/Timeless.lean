import MethodMacros.Proofs.FileSystem.Walking

/-!
# Files without their times

Times of last changes are asked for and set, but nothing else depends on them: where a path leads,
whether an operation can be done, and what it leaves apart from times.  So each operation commutes
with forgetting all times.

* `FileSystem.timeless`: the file system with all times forgotten.  It is a tree as before, since
  directories stay directories (`isTree_timeless`).
* `get?_timeless`, `insert_timeless`, `erase_timeless`: single entries.
* `steps_timeless`, `walk_timeless`, `reach_timeless`: walks.  These see kinds and the targets of
  links, so the induction never meets a time.
* `makeDirectory_timeless`, `createFile_timeless`, `writeFile_timeless`, `setMode_timeless`,
  `removeFile_timeless`, `rename_timeless`: the operations, each from its walk and its entry.
-/

namespace MethodMacros

/-- A file without the time of its last change. -/
def FileNode.timeless (node : FileNode) : FileNode := { node with modified := 0 }

/-- An entry without the time of its last change. -/
def Entry.timeless : Entry → Entry
  | .directory mode => .directory mode
  | .file node => .file node.timeless
  | .link target => .link target

/-- What can be asked about an entry, without the time of its last change. -/
def Status.timeless (s : Status) : Status := { s with modified := 0 }

theorem Entry.status_timeless (e : Entry) : e.timeless.status = e.status.timeless := by
  cases e <;> rfl

theorem Entry.withMode_timeless (e : Entry) (mode : Nat) :
    e.timeless.withMode mode = (e.withMode mode).timeless := by
  cases e <;> rfl

namespace FileSystem

theorem lookup_timeless (l : Location) : ∀ entries : List (Location × Entry),
    (entries.map fun (l, e) => (l, e.timeless)).lookup l = (entries.lookup l).map Entry.timeless
  | [] => rfl
  | (k, e) :: rest => by
      have ih := lookup_timeless l rest
      rw [List.map_cons, List.lookup_cons, List.lookup_cons, ih]
      cases l == k <;> rfl

theorem entryAmong_timeless (l : Location) (entries : List (Location × Entry)) :
    entryAmong (entries.map fun (l, e) => (l, e.timeless)) l =
      (entryAmong entries l).map Entry.timeless := by
  unfold entryAmong
  split
  · rfl
  · exact lookup_timeless l entries

theorem any_isDirectory_timeless (e : Option Entry) :
    (e.map Entry.timeless).any Entry.isDirectory = e.any Entry.isDirectory := by
  rcases e with _ | _ | _ | _ <;> rfl

/-- Directories stay directories, so each entry still lies in one. -/
theorem isTree_timeless (fs : FileSystem) :
    IsTree (fs.entries.map fun (l, e) => (l, e.timeless)) where
  parent := by
    intro entry hentry
    obtain ⟨entry, hmem, rfl⟩ := List.mem_map.mp hentry
    rw [entryAmong_timeless, any_isDirectory_timeless]
    exact fs.isTree.parent entry hmem

/-- A file system without the times of last changes. -/
def timeless (fs : FileSystem) : FileSystem :=
  { entries := fs.entries.map fun (l, e) => (l, e.timeless)
    isTree := fs.isTree_timeless }

/-- What a walk reaches, without times. -/
def Reached.timeless : Reached → Reached
  | .found l e => .found l e.timeless
  | .vacant l => .vacant l

/-- How far a walk gets, without times. -/
def Stop.timeless : Stop → Stop
  | .reached r => .reached r.timeless
  | .failed e => .failed e
  | .link directory target rest => .link directory target rest

variable (fs : FileSystem)

/-! ## Entries -/

theorem get?_timeless (l : Location) : fs.timeless.get? l = (fs.get? l).map Entry.timeless :=
  entryAmong_timeless l fs.entries

theorem admits_timeless (l : Location) (e : Entry) :
    fs.timeless.admits l e.timeless = fs.admits l e := by
  have he : e.timeless.isDirectory = e.isDirectory := by cases e <;> rfl
  rw [admits, get?_timeless, get?_timeless, any_isDirectory_timeless, any_isDirectory_timeless, he,
    admits]

theorem filter_timeless (p : Location → Bool) (entries : List (Location × Entry)) :
    (entries.map fun (l, e) => (l, e.timeless)).filter (p ·.1) =
      (entries.filter (p ·.1)).map fun (l, e) => (l, e.timeless) :=
  List.filter_map

theorem insert_timeless (l : Location) (e : Entry) :
    fs.timeless.insert l e.timeless = (fs.insert l e).timeless := by
  have hadmits := fs.admits_timeless l e
  unfold insert
  by_cases h : fs.admits l e = true
  · rw [dif_pos h, dif_pos (hadmits.trans h)]
    exact FileSystem.ext (congrArg ((l, e.timeless) :: ·) (filter_timeless (· != l) fs.entries))
  · rw [dif_neg h, dif_neg (by rwa [hadmits])]

theorem erase_timeless (l : Location) : fs.timeless.erase l = (fs.erase l).timeless :=
  FileSystem.ext (filter_timeless (fun k => !l.isPrefixOf k) fs.entries)

/-! ## Walks -/

theorem steps_timeless (followLast : Bool) (l : Location) (names : List String) :
    fs.timeless.steps followLast l names = (fs.steps followLast l names).timeless := by
  fun_induction steps fs followLast l names with
  | case1 l e hget => simp only [steps, get?_timeless, hget, Option.map_some, Stop.timeless,
      Reached.timeless]
  | case2 l hget => simp only [steps, get?_timeless, hget, Option.map_none, Stop.timeless]
  | case3 l rest mode hl ih => simp only [steps, get?_timeless, hl, Option.map_some, Entry.timeless,
      ↓reduceIte, ih]
  | case4 l rest mode hl hne ih => simp only [steps, get?_timeless, hl, Option.map_some,
      Entry.timeless, hne, ↓reduceIte, ih]
  | case5 l name rest mode hl hdot hdots hlong => simp only [steps, get?_timeless, hl,
      Option.map_some, Entry.timeless, hdot, hdots, hlong, ↓reduceIte, Stop.timeless]
  | case6 l name rest mode hl hdot hdots hlong hnone hrest => simp only [steps, get?_timeless, hl,
      Option.map_some, Entry.timeless, hdot, hdots, hlong, hnone, hrest, Option.map_none,
      ↓reduceIte, Stop.timeless, Reached.timeless]
  | case7 l name rest mode hl hdot hdots hlong hnone hrest => simp only [steps, get?_timeless, hl,
      Option.map_some, Entry.timeless, hdot, hdots, hlong, hnone, hrest, Option.map_none,
      ↓reduceIte, Stop.timeless, Bool.false_eq_true]
  | case8 l name rest mode hl hdot hdots hlong target hlink hlast => simp only [steps,
      get?_timeless, hl, Option.map_some, Entry.timeless, hdot, hdots, hlong, hlink, hlast,
      ↓reduceIte, Stop.timeless, Reached.timeless]
  | case9 l name rest mode hl hdot hdots hlong target hlink hgo => simp only [steps,
      get?_timeless, hl, Option.map_some, Entry.timeless, hdot, hdots, hlong, hlink, hgo,
      ↓reduceIte, Stop.timeless, Bool.false_eq_true]
  | case10 l name rest mode hl hdot hdots hlong e he hget ih =>
    simp only [steps, get?_timeless, hl, Option.map_some, Entry.timeless, hdot, hdots, hlong, hget,
      ↓reduceIte]
    cases e with
    | directory mode => exact ih
    | file node => exact ih
    | link target => exact absurd rfl (he target)
  | case11 l name rest e he hget =>
    simp only [steps, get?_timeless, hget, Option.map_some]
    cases e with
    | directory mode => exact absurd rfl (he mode)
    | file node => rfl
    | link target => rfl
  | case12 l name rest hget => simp only [steps, get?_timeless, hget, Option.map_none,
      Stop.timeless]

theorem walk_timeless (followLast : Bool) (n : Nat) (l : Location) (names : List String) :
    fs.timeless.walk followLast n l names = (fs.walk followLast n l names).map Reached.timeless := by
  induction n generalizing l names with
  | zero =>
    unfold walk
    rw [steps_timeless]
    cases fs.steps followLast l names <;> rfl
  | succ n ih =>
    unfold walk
    rw [steps_timeless]
    cases fs.steps followLast l names with
    | link directory target rest => exact ih _ _
    | _ => rfl

theorem reach_timeless (cwd : Location) (path : String) (followLast : Bool) :
    fs.timeless.reach cwd path followLast =
      (fs.reach cwd path followLast).map Reached.timeless := by
  unfold reach
  split
  · rfl
  · split
    · rfl
    · exact walk_timeless fs followLast linkLimit _ _

theorem entryAt_timeless (cwd : Location) (path : String) (followLast : Bool) :
    fs.timeless.entryAt cwd path followLast =
      (fs.entryAt cwd path followLast).map fun (l, e) => (l, e.timeless) := by
  unfold entryAt
  rw [reach_timeless]
  rcases fs.reach cwd path followLast with _ | _ | _ <;> rfl

/-! ## Operations -/

section Operations

variable (cwd : Location) (path : String) (umask : Mask) (mode : Nat) (time : Int)

theorem status_timeless :
    fs.timeless.status cwd path = (fs.status cwd path).map Status.timeless := by
  unfold status
  rw [entryAt_timeless]
  rcases fs.entryAt cwd path true with _ | ⟨l, e⟩
  · rfl
  · exact congrArg Except.ok e.status_timeless

theorem inheritedMode_timeless (l : Location) :
    fs.timeless.inheritedMode l = fs.inheritedMode l := by
  unfold inheritedMode
  rw [get?_timeless]
  rcases fs.get? l.dropLast with _ | _ | _ | _ <;> rfl

theorem makeDirectory_timeless :
    fs.timeless.makeDirectory cwd umask path =
      (fs.makeDirectory cwd umask path).map timeless := by
  unfold makeDirectory
  rw [reach_timeless]
  rcases fs.reach cwd path false with _ | _ | l
  · rfl
  · rfl
  · refine congrArg Except.ok ?_
    rw [← insert_timeless, inheritedMode_timeless]
    rfl

theorem createFile_timeless :
    fs.timeless.createFile cwd umask mode 0 path =
      (fs.createFile cwd umask mode time path).map timeless := by
  unfold createFile
  rw [reach_timeless]
  rcases fs.reach cwd path false with _ | _ | l
  · rfl
  · rfl
  · exact congrArg Except.ok (fs.insert_timeless l
      (.file { mode := clearMask mode umask, modified := time, content := [] }))

theorem writeFile_timeless (content : List UInt8) :
    fs.timeless.writeFile cwd umask 0 path content =
      (fs.writeFile cwd umask time path content).map timeless := by
  unfold writeFile
  rw [reach_timeless]
  rcases fs.reach cwd path true with _ | ⟨l, _ | node | _⟩ | l
  · rfl
  · rfl
  · exact congrArg Except.ok (fs.insert_timeless l
      (.file { node with modified := time, content := content, behaviour := none }))
  · rfl
  · exact congrArg Except.ok (fs.insert_timeless l
      (.file { mode := clearMask 0o666 umask, modified := time, content := content }))

theorem setMode_timeless :
    fs.timeless.setMode cwd path mode = (fs.setMode cwd path mode).map timeless := by
  unfold setMode
  rw [entryAt_timeless]
  rcases fs.entryAt cwd path true with _ | ⟨l, e⟩
  · rfl
  · have hinsert := fs.insert_timeless l (e.withMode mode)
    rw [← e.withMode_timeless] at hinsert
    exact congrArg Except.ok hinsert

theorem removeFile_timeless :
    fs.timeless.removeFile cwd path = (fs.removeFile cwd path).map timeless := by
  unfold removeFile
  rw [entryAt_timeless]
  rcases fs.entryAt cwd path false with _ | ⟨l, _ | _ | _⟩
  · rfl
  · rfl
  · exact congrArg Except.ok (fs.erase_timeless l)
  · exact congrArg Except.ok (fs.erase_timeless l)

theorem rename_timeless (source target : String) :
    fs.timeless.rename cwd source target = (fs.rename cwd source target).map timeless := by
  have hmove (l m : Location) (e : Entry) : (fs.timeless.erase l).insert m e.timeless =
      ((fs.erase l).insert m e).timeless := by
    rw [erase_timeless, insert_timeless]
  unfold rename
  rw [entryAt_timeless, reach_timeless, walk_timeless]
  rcases fs.entryAt cwd source false with _ | ⟨l, e⟩
  · rfl
  · cases endsSpecially target with
    | true =>
      rcases fs.walk true linkLimit (startOf cwd target) (namesOf target).dropLast with _ | _ <;> rfl
    | false =>
      rcases fs.reach cwd target false with _ | ⟨m, _ | _ | _⟩ | m
      · rfl
      · rfl
      · exact congrArg Except.ok (hmove l m e)
      · exact congrArg Except.ok (hmove l m e)
      · exact congrArg Except.ok (hmove l m e)

end Operations

end FileSystem

end MethodMacros
