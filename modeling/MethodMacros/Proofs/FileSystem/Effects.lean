import MethodMacros.Proofs.FileSystem.Walking
import MethodMacros.Proofs.Results

/-!
# What operations on files do

For each operation that succeeds: what its path led to, and which entry is put or removed at which
location.  All that is proved about files later on goes through these statements.

* `entryAt_eq_ok`, `status_eq_ok`, `makeDirectory_eq_ok`, `createFile_eq_ok`, `rename_eq_ok`: what a
  success tells.
* `writeFile_of_reach`, `setMode_of_reach`, `setModified_of_reach`, `removeFile_of_reach`: where the
  path leads to an entry of the right kind, the operation succeeds and does this.
* `admits_erase_of_reach`: where a path leads, a file can be put that has been taken from another
  place.
-/

namespace MethodMacros.FileSystem

variable {fs files : FileSystem} {cwd : Location} {umask : Mask} {mode : Nat} {time : Int}
variable {path target : String} {content : List UInt8} {followLast : Bool}

theorem entryAt_eq_ok {l : Location} {e : Entry} (h : fs.entryAt cwd path followLast = .ok (l, e)) :
    fs.reach cwd path followLast = .ok (.found l e) := by
  obtain ⟨r, hreach, hr⟩ := bind_eq_ok h
  cases r with
  | vacant l' => cases hr
  | found l' e' =>
    cases hr
    exact hreach

theorem entryAt_of_reach {l : Location} {e : Entry}
    (h : fs.reach cwd path followLast = .ok (.found l e)) :
    fs.entryAt cwd path followLast = .ok (l, e) := by
  unfold entryAt
  rw [h]
  rfl

theorem status_eq_ok {s : Status} (h : fs.status cwd path = .ok s) :
    ∃ l e, fs.reach cwd path true = .ok (.found l e) ∧ s = e.status := by
  obtain ⟨⟨l, e⟩, hentry, hs⟩ := bind_eq_ok h
  exact ⟨l, e, entryAt_eq_ok hentry, (Except.ok.inj hs).symm⟩

/-- A directory is made at the free place that a path leads to. -/
theorem makeDirectory_eq_ok (h : fs.makeDirectory cwd umask path = .ok files) :
    ∃ l mode, fs.reach cwd path false = .ok (.vacant l) ∧
      files = fs.insert l (.directory mode) := by
  obtain ⟨r, hreach, hr⟩ := bind_eq_ok h
  cases r with
  | found l e => cases hr
  | vacant l => exact ⟨l, _, hreach, (Except.ok.inj hr).symm⟩

/-- A file is created at the free place that a path leads to. -/
theorem createFile_eq_ok (h : fs.createFile cwd umask mode time path = .ok files) :
    ∃ l node, fs.reach cwd path false = .ok (.vacant l) ∧ files = fs.insert l (.file node) := by
  obtain ⟨r, hreach, hr⟩ := bind_eq_ok h
  cases r with
  | found l e => cases hr
  | vacant l => exact ⟨l, _, hreach, (Except.ok.inj hr).symm⟩

/-- The content of a file that a path leads to is replaced. -/
theorem writeFile_of_reach {l : Location} {node : FileNode}
    (h : fs.reach cwd path true = .ok (.found l (.file node))) :
    fs.writeFile cwd umask time path content = .ok (fs.insert l
      (.file { node with modified := time, content := content, behaviour := none })) := by
  unfold writeFile
  rw [h]
  rfl

/-- The permissions of a file that a path leads to are set. -/
theorem setMode_of_reach {l : Location} {e : Entry}
    (h : fs.reach cwd path true = .ok (.found l e)) :
    fs.setMode cwd path mode = .ok (fs.insert l (e.withMode mode)) := by
  unfold setMode
  rw [entryAt_of_reach h]
  rfl

/-- The time of a file that a path leads to is set. -/
theorem setModified_of_reach {l : Location} {node : FileNode}
    (h : fs.reach cwd path true = .ok (.found l (.file node))) :
    fs.setModified cwd path time = .ok (fs.insert l (.file { node with modified := time })) := by
  unfold setModified
  rw [entryAt_of_reach h]
  rfl

/-- A file that a path leads to is removed. -/
theorem removeFile_of_reach {l : Location} {node : FileNode}
    (h : fs.reach cwd path false = .ok (.found l (.file node))) :
    fs.removeFile cwd path = .ok (fs.erase l) := by
  unfold removeFile
  rw [entryAt_of_reach h]
  rfl

/-- A file is moved to where a path leads, which is no directory. -/
theorem rename_eq_ok {source : String} {l : Location} {e : Entry}
    (hsource : fs.reach cwd source false = .ok (.found l e))
    (h : fs.rename cwd source target = .ok files) :
    ∃ r, fs.reach cwd target false = .ok r ∧ (∀ m mode, r ≠ .found m (.directory mode)) ∧
      files = (fs.erase l).insert r.location e := by
  unfold rename at h
  rw [entryAt_of_reach hsource] at h
  obtain ⟨⟨l', e'⟩, hentry, h⟩ := bind_eq_ok h
  cases hentry
  dsimp only at h
  split at h
  · obtain ⟨-, -, h⟩ := bind_eq_ok h
    cases h
  · obtain ⟨r, hreach, h⟩ := bind_eq_ok h
    cases r with
    | vacant m => exact ⟨_, hreach, by simp, (Except.ok.inj h).symm⟩
    | found m entry =>
      cases entry with
      | directory mode => cases h
      | file node => exact ⟨_, hreach, by simp, (Except.ok.inj h).symm⟩
      | link target => exact ⟨_, hreach, by simp, (Except.ok.inj h).symm⟩

/-- A file that is taken from one place can be put at another that a path leads to, unless there is
a directory. -/
theorem admits_erase_of_reach {t : Location} {node : FileNode} {r : Reached}
    (ht : fs.get? t = some (.file node)) (hreach : fs.reach cwd target false = .ok r)
    (hplace : ∀ m mode, r ≠ .found m (.directory mode)) (e : Entry) :
    (fs.erase t).admits r.location e = true := by
  obtain ⟨mode, hparent⟩ := exists_directory_of_reach hreach
  have hne : r.location.dropLast ≠ t := by
    rintro hparent_eq
    rw [hparent_eq, ht] at hparent
    cases hparent
  have hkept := get?_erase_of_ne fs (by simp [ht]) hne
  refine admits_eq_true (hkept.trans hparent) (.inr fun mode hmode => ?_)
  have hr := reach_reached_eq hreach
  rw [reachedAt_of_some (get?_of_get?_erase hmode)] at hr
  exact hplace _ _ hr

end MethodMacros.FileSystem
