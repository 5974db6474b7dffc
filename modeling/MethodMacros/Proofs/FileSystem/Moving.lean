import MethodMacros.Proofs.FileSystem.Effects

/-!
# What a path leads to after a move

A file is moved to where a path leads.  Where the path leads afterwards need not be that place: if
it ran through a link that stood there, it leads somewhere else now, or nowhere.  But if it leads to
any file, then to the one that was moved (`file_of_rename`).

The moved file is no way to anything, so the path cannot lead further through its new place than
before.  What makes the argument long is that a move leaves a link at the end of its path alone,
while the path is followed to the end afterwards.  `reach_of_true` goes from the one to the other: a
path that leads somewhere when a last link is followed leads there without that as well, or else to
a link.
-/

namespace MethodMacros.FileSystem

variable {fs files : FileSystem} {cwd l k : Location} {e : Entry} {r : Reached} {n : Nat}
variable {path : String} {names : List String} {stop : Stop} {followLast : Bool}

/-! ## Without following a last link -/

/-- Where a last link is not followed, a walk stops as before or at a link. -/
theorem Stops.of_true (h : Stops fs true l names stop) :
    Stops fs false l names stop ∨
      ∃ k target, Stops fs false l names (.reached (.found k (.link target))) := by
  induction h with
  | here h => exact .inl (.here h)
  | stay hl _ ih =>
    rcases ih with ih | ⟨k, target, ih⟩
    · exact .inl (.stay hl ih)
    · exact .inr ⟨k, target, .stay hl ih⟩
  | up hl _ ih =>
    rcases ih with ih | ⟨k, target, ih⟩
    · exact .inl (.up hl ih)
    · exact .inr ⟨k, target, .up hl ih⟩
  | vacant hl hname h => exact .inl (.vacant hl hname h)
  | lastLink _ _ _ hlast => cases hlast
  | @link l mode name target rest hl hname h _ =>
    cases rest with
    | nil => exact .inr ⟨_, target, .lastLink hl hname h rfl⟩
    | cons next rest => exact .inl (.link hl hname h (.inl (List.cons_ne_nil next rest)))
  | enter hl hname he hget _ ih =>
    rcases ih with ih | ⟨k, target, ih⟩
    · exact .inl (.enter hl hname he hget ih)
    · exact .inr ⟨k, target, .enter hl hname he hget ih⟩

theorem walk_of_true (h : fs.walk true n l names = .ok r) :
    fs.walk false n l names = .ok r ∨
      ∃ k target, fs.walk false n l names = .ok (.found k (.link target)) := by
  induction n generalizing l names with
  | zero =>
    rcases walk_eq_ok h with hstops | ⟨m, _, _, _, hm, -, -⟩
    · rcases hstops.of_true with hstops | ⟨k, target, hstops⟩
      · exact .inl (hstops.walk_eq 0)
      · exact .inr ⟨k, target, hstops.walk_eq 0⟩
    · cases hm
  | succ n ih =>
    rcases walk_eq_ok h with hstops | ⟨m, directory, target, rest, hm, hstops, hwalk⟩
    · rcases hstops.of_true with hstops | ⟨k, target, hstops⟩
      · exact .inl (hstops.walk_eq (n + 1))
      · exact .inr ⟨k, target, hstops.walk_eq (n + 1)⟩
    · obtain rfl := Nat.succ.inj hm
      rcases hstops.of_true with hstops | ⟨k, target, hstops⟩
      · rw [hstops.walk_succ_eq]
        exact ih hwalk
      · exact .inr ⟨k, target, hstops.walk_eq (n + 1)⟩

/-- A path that leads somewhere leads there without following a last link, or else to a link. -/
theorem reach_of_true (h : fs.reach cwd path true = .ok r) :
    fs.reach cwd path false = .ok r ∨
      ∃ k target, fs.reach cwd path false = .ok (.found k (.link target)) := by
  rcases walk_of_true (reach_eq_ok h) with hwalk | ⟨k, target, hwalk⟩
  · exact .inl (reach_of_walk h hwalk)
  · exact .inr ⟨k, target, reach_of_walk h hwalk⟩

/-! ## Files that are changed or moved -/

/-- A file that is replaced by another one is still found by its path. -/
theorem reach_insert_of_file {node node' : FileNode}
    (h : fs.reach cwd path followLast = .ok (.found k (.file node))) :
    (fs.insert k (.file node')).reach cwd path followLast = .ok (.found k (.file node')) := by
  have hk := get?_of_reach_found h
  have hne : k ≠ [] := by
    rintro rfl
    cases hk
  have hadmits : fs.admits k (.file node') = true := admits_of_some hk (.inr (by simp))
  have hget := get?_insert_self hadmits hne
  have hways : KeepsWays fs (fs.insert k (.file node')) := by
    intro l e he hl
    have hlk : l ≠ k := by
      rintro rfl
      exact he ⟨node, Option.some.inj (hl.symm.trans hk)⟩
    rw [get?_insert_of_ne fs _ hlk, hl]
  have hreach := reach_transfer hways h ⟨_, hget, isFinal_file node'⟩
  rwa [Reached.location_found, reachedAt_of_some hget] at hreach

/-- What is not the file that was moved stands where it stood. -/
theorem get?_of_get?_moved {m t : Location} {node : FileNode} (hkm : k ≠ m)
    (h : ((fs.erase t).insert m (.file node)).get? k = some e) : fs.get? k = some e := by
  rw [get?_insert_of_ne _ _ hkm] at h
  exact get?_of_get?_erase h

/-- **Moves.**  If a path leads to a file after something was moved there, this is the file that was
moved. -/
theorem file_of_rename {source : String} {t : Location} {node node' : FileNode}
    (hsource : fs.reach cwd source false = .ok (.found t (.file node)))
    (hrename : fs.rename cwd source path = .ok files)
    (hfound : files.reach cwd path true = .ok (.found l (.file node'))) : node' = node := by
  obtain ⟨r, hreach, hplace, rfl⟩ := rename_eq_ok hsource hrename
  have hm : r.location ≠ [] := by
    intro hroot
    have hr := reach_reached_eq hreach
    rw [hroot, reachedAt_of_some (e := .directory 0o755) rfl] at hr
    exact hplace _ _ hr
  have hadmits := admits_erase_of_reach (get?_of_reach_found hsource) hreach hplace (.file node)
  have hmoved := get?_insert_self hadmits hm
  have hways : KeepsWays ((fs.erase t).insert r.location (.file node)) fs := by
    intro k e he hget
    refine get?_of_get?_moved ?_ hget
    rintro rfl
    exact he ⟨node, (Option.some.inj (hmoved.symm.trans hget)).symm⟩
  -- Before the move the path led to the new place; so what it leads to now can only be there.
  have hplaced (r' : Reached) (hr' : fs.Arrives r')
      (h : ((fs.erase t).insert r.location (.file node)).reach cwd path false = .ok r') :
      r'.location = r.location := by
    have htransfer := reach_transfer hways h hr'
    rw [hreach] at htransfer
    rw [Except.ok.inj htransfer, location_reachedAt]
  have hl : l = r.location := by
    rcases reach_of_true hfound with hfalse | ⟨k, target, hlink⟩
    · refine Classical.byContradiction fun hne => ?_
      have hget := get?_of_get?_moved hne (get?_of_reach_found hfound)
      exact hne (hplaced (.found l (.file node')) (.of_isFinal hget (isFinal_file node')) hfalse)
    · have hk : k = r.location := hplaced (.found k (.link target)) trivial hlink
      have hget := get?_of_reach_found hlink
      rw [hk] at hget
      cases hmoved.symm.trans hget
  have hget := get?_of_reach_found hfound
  rw [hl] at hget
  cases hmoved.symm.trans hget
  rfl

end MethodMacros.FileSystem
