import MethodMacros.Proofs.FileSystem.Descending

/-!
# New directories

Each entry of a file system lies in a directory, so nothing lies below a free place.  A directory
that has just been made there is empty, and a path through it leads nowhere, as it did before:
`view_insert` says so of what is seen at the path.

The two halves have different reasons.  Before, the walk ends at the free place, with names left that
it cannot follow (`reach_eq_goOn`).  Afterwards it enters the new directory, and the next name is not
in there (`get?_child` and `walk_ne_found`).
-/

namespace MethodMacros

namespace FileSystem

variable {fs : FileSystem} {cwd k d : Location} {followLast : Bool} {mode : Nat} {path : String}
variable {rest more : List String}

/-- Nothing lies below a free place. -/
theorem get?_child (fs : FileSystem) (hk : fs.get? k = none) (name : String) :
    fs.get? (k ++ [name]) = none := by
  cases hget : fs.get? (k ++ [name]) with
  | none => rfl
  | some e =>
    obtain ⟨mode, hdirectory⟩ := fs.exists_directory hget
    rw [List.dropLast_concat] at hdirectory
    cases hk.symm.trans hdirectory

/-- A name that a directory does not hold leads to no entry, whatever comes after it. -/
theorem walk_ne_found {name : String} (hd : fs.get? d = some (.directory mode)) (hdot : name ≠ ".")
    (hdots : name ≠ "..") (hnone : fs.get? (d ++ [name]) = none) (n : Nat) :
    fs.walk followLast n d (name :: rest) ≠ .ok (.found k e) := by
  intro h
  unfold walk at h
  simp only [steps, hd, hdot, hdots, hnone, ↓reduceIte] at h
  by_cases hlong : nameLimit < name.utf8ByteSize
  · simp only [hlong, ↓reduceIte] at h
    cases h
  · cases rest with
    | nil =>
      simp only [hlong, List.isEmpty_nil, ↓reduceIte] at h
      cases h
    | cons next rest =>
      simp only [hlong, List.isEmpty_cons, Bool.false_eq_true, ↓reduceIte] at h
      cases h

theorem view_of_ne_found (h : ∀ k e, fs.reach cwd path false ≠ .ok (.found k e)) :
    fs.view cwd path = none := by
  unfold view
  split
  · exact absurd ‹_› (h _ _)
  · rfl

/-- Making a directory on the way to an entry leaves it at that there is no such entry. -/
theorem view_insert {p q : Path} (hp : p.IsNormal) (hq : q.IsNormal)
    (hdots : ".." ∉ p.parts) (hroot : p.root = q.root) (hparts : p.parts = q.parts ++ more)
    (hmore : more ≠ []) (h : fs.reach cwd (toString q) false = .ok (.vacant k)) :
    (fs.insert k (.directory mode)).view cwd (toString p) = fs.view cwd (toString p) := by
  obtain ⟨name, rest, rfl⟩ := List.exists_cons_of_ne_nil hmore
  have hmem : name ∈ p.parts := by
    rw [hparts]
    exact List.mem_append_right _ List.mem_cons_self
  have hk := get?_of_reach_vacant h
  have hbefore : fs.view cwd (toString p) = none := by
    have hvacant := reach_of_walk h (walk_of_false (by simp) (reach_eq_ok h))
    obtain ⟨m, hm⟩ := reach_eq_goOn false hp hq hroot hparts hmore hvacant
    refine view_of_ne_found fun l e hreach => ?_
    rw [hm, Reached.goOn] at hreach
    split at hreach <;> cases hreach
  have hafter : (fs.insert k (.directory mode)).view cwd (toString p) = none := by
    have hfinal := isFinal_directory mode
    obtain ⟨m, hm⟩ := reach_eq_goOn false hp hq hroot hparts hmore
      (reach_of_false hfinal (reach_insert_of_vacant hfinal h))
    have hdirectory := get?_insert_self (admits_of_vacant h (.directory mode))
      (ne_nil_of_get?_eq_none hk)
    have hchild : (fs.insert k (.directory mode)).get? (k ++ [name]) = none := by
      rw [get?_insert_of_ne fs _ (by simp), fs.get?_child hk]
    refine view_of_ne_found fun l e hreach => ?_
    rw [hm, Reached.goOn] at hreach
    split at hreach
    · cases hreach
    · exact walk_ne_found hdirectory (hp name hmem).ne_dot (fun hname => hdots (hname ▸ hmem))
        hchild m hreach
  rw [hbefore, hafter]

end FileSystem

end MethodMacros
