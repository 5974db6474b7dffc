import MethodMacros.Proofs.FileSystem.Walking
import Mathlib.Data.List.Perm.Subperm

/-!
# The location behind a path

A path can be followed in two ways.  The operating system walks along it, replaces each link by what
it points to, and gives up after some number of links.  Resolving a path follows each link to its
end before it goes on, whatever the number of links is; it gives up at a link that it is following
already, and it goes on by name where nothing exists.

Where the walk arrives, the two agree (`resolve_of_reach`).  The relation `Follows` stands between
them: it says how many links names take from one location to another.  `follows_of_walk` is the one
half of the proof, and `Follows.resolveFrom_eq` the other.

## Circles

Why does resolving not give up where the walk arrives?  What a link takes is settled by the link
(`Takes.unique`).  A link that came up while it was being followed would take more links than
itself.  `Pending` carries this along: the links that are being followed are different, each of them
takes at least as many links as the names at hand, and there is fuel for all other entries.
-/

namespace MethodMacros.FileSystem

open MethodMacros.Path (components)

variable {fs : FileSystem} {cwd d l k mid : Location} {r : Reached} {stop : Stop}
variable {m n fuel : Nat} {name target path : String} {names more rest : List String}
variable {followed : List Location}

/-- Names lead from one location to another when every link is followed, the last one included.  The
number is how many links that takes. -/
inductive Follows (fs : FileSystem) : Nat → Location → List String → Location → Prop where
  | here (l : Location) : Follows fs 0 l [] l
  | special {n : Nat} {l k : Location} {name : String} {rest : List String}
      (hname : name = "." ∨ name = "..") (h : Follows fs n (lexicalStep l name) rest k) :
      Follows fs n l (name :: rest) k
  | enter {n : Nat} {l k : Location} {name : String} {rest : List String}
      (hdot : name ≠ ".") (hdots : name ≠ "..")
      (hget : ∀ target, fs.get? (l ++ [name]) ≠ some (.link target))
      (h : Follows fs n (l ++ [name]) rest k) : Follows fs n l (name :: rest) k
  | link {m n : Nat} {l mid k : Location} {name target : String} {rest : List String}
      (hdot : name ≠ ".") (hdots : name ≠ "..")
      (hget : fs.get? (l ++ [name]) = some (.link target))
      (htarget : Follows fs m (startOf l target) (components target.toList) mid)
      (h : Follows fs n mid rest k) : Follows fs (m + 1 + n) l (name :: rest) k

namespace Follows

/-- Names lead to one location, and take one number of links. -/
theorem unique {n' : Nat} {k' : Location} (h : Follows fs n l names k)
    (h' : Follows fs n' l names k') : n = n' ∧ k = k' := by
  induction h generalizing n' k' with
  | here l =>
    cases h'
    exact ⟨rfl, rfl⟩
  | special hname _ ih =>
    cases h' with
    | special _ h' => exact ih h'
    | enter hdot hdots => exact absurd hname (by simp [hdot, hdots])
    | link hdot hdots => exact absurd hname (by simp [hdot, hdots])
  | enter hdot hdots hget _ ih =>
    cases h' with
    | special hname => exact absurd hname (by simp [hdot, hdots])
    | enter _ _ _ h' => exact ih h'
    | link _ _ hlink => exact absurd hlink (hget _)
  | link hdot hdots hget _ _ ihtarget ih =>
    cases h' with
    | special hname => exact absurd hname (by simp [hdot, hdots])
    | enter _ _ hnone => exact absurd hget (hnone _)
    | link _ _ hget' htarget' h' =>
      cases hget.symm.trans hget'
      obtain ⟨rfl, rfl⟩ := ihtarget htarget'
      obtain ⟨rfl, rfl⟩ := ih h'
      exact ⟨rfl, rfl⟩

/-- What names lead to is what their beginning and their end lead to in a row. -/
theorem of_append (h : Follows fs n l (names ++ more) k) :
    ∃ m mid rest, Follows fs m l names mid ∧ Follows fs rest mid more k := by
  generalize hall : names ++ more = all at h
  induction h generalizing names with
  | here l =>
    obtain ⟨rfl, rfl⟩ := List.append_eq_nil_iff.mp hall
    exact ⟨0, l, 0, .here l, .here l⟩
  | @special n l k name rest hname h ih =>
    rcases List.append_eq_cons_iff.mp hall with ⟨rfl, rfl⟩ | ⟨names, rfl, rfl⟩
    · exact ⟨0, l, n, .here l, .special hname h⟩
    · obtain ⟨m, mid, rest, hfirst, hrest⟩ := ih rfl
      exact ⟨m, mid, rest, .special hname hfirst, hrest⟩
  | @enter n l k name rest hdot hdots hget h ih =>
    rcases List.append_eq_cons_iff.mp hall with ⟨rfl, rfl⟩ | ⟨names, rfl, rfl⟩
    · exact ⟨0, l, n, .here l, .enter hdot hdots hget h⟩
    · obtain ⟨m, mid, rest, hfirst, hrest⟩ := ih rfl
      exact ⟨m, mid, rest, .enter hdot hdots hget hfirst, hrest⟩
  | @link j n l mid k name target rest hdot hdots hget htarget h ihtarget ih =>
    rcases List.append_eq_cons_iff.mp hall with ⟨rfl, rfl⟩ | ⟨names, rfl, rfl⟩
    · exact ⟨0, l, j + 1 + n, .here l, .link hdot hdots hget htarget h⟩
    · obtain ⟨m, mid, rest, hfirst, hrest⟩ := ih rfl
      exact ⟨j + 1 + m, mid, rest, .link hdot hdots hget htarget hfirst, hrest⟩

/-- Dots lead nowhere. -/
theorem filter_iff : Follows fs n l (names.filter (· != ".")) k ↔ Follows fs n l names k := by
  induction names generalizing n l with
  | nil => rfl
  | cons name rest ih =>
    by_cases hdot : name = "."
    · subst hdot
      rw [List.filter_cons_of_neg (by simp), ih]
      refine ⟨fun h => .special (.inl rfl) h, fun h => ?_⟩
      cases h with
      | special _ h => exact h
      | enter hdot => exact absurd rfl hdot
      | link hdot => exact absurd rfl hdot
    · rw [List.filter_cons_of_pos (by simpa using hdot)]
      constructor
      · intro h
        cases h with
        | special hname h => exact .special hname (ih.mp h)
        | enter hdot hdots hget h => exact .enter hdot hdots hget (ih.mp h)
        | link hdot hdots hget htarget h => exact .link hdot hdots hget htarget (ih.mp h)
      · intro h
        cases h with
        | special hname h => exact .special hname (ih.mpr h)
        | enter hdot hdots hget h => exact .enter hdot hdots hget (ih.mpr h)
        | link hdot hdots hget htarget h => exact .link hdot hdots hget htarget (ih.mpr h)

/-- A slash at the end of a path leads nowhere else. -/
theorem of_namesOf (h : Follows fs n l (namesOf path) k) :
    Follows fs n l (components path.toList) k := by
  unfold namesOf at h
  dsimp only at h
  split at h
  · rw [← filter_iff, List.filter_append, List.filter_cons_of_neg (by simp), List.filter_nil,
      List.append_nil] at h
    exact filter_iff.mp h
  · exact h

end Follows

/-! ## Walking -/

theorem Stops.follows (h : Stops fs true l names stop) (hstop : stop = .reached r) :
    Follows fs 0 l names r.location := by
  induction h with
  | here h =>
    cases hstop
    exact .here _
  | stay _ _ ih => exact .special (.inl rfl) (ih hstop)
  | up _ _ ih => exact .special (.inr rfl) (ih hstop)
  | vacant _ hname h =>
    cases hstop
    exact .enter hname.1 hname.2.1 (by simp [h]) (.here _)
  | lastLink _ _ _ hlast => cases hlast
  | link => cases hstop
  | enter _ hname he hget _ ih =>
    exact .enter hname.1 hname.2.1 (fun target => by simpa [hget] using he target) (ih hstop)

/-- What names lead to that stop at a link. -/
theorem Stops.follows_link (h : Stops fs true l names stop) (hstop : stop = .link d target rest)
    (htarget : Follows fs m (startOf d target) (components target.toList) mid)
    (hrest : Follows fs n mid rest k) : ∃ total, Follows fs total l names k := by
  induction h with
  | here | vacant => cases hstop
  | lastLink _ _ _ hlast => cases hlast
  | stay _ _ ih =>
    obtain ⟨total, h⟩ := ih hstop
    exact ⟨total, .special (.inl rfl) h⟩
  | up _ _ ih =>
    obtain ⟨total, h⟩ := ih hstop
    exact ⟨total, .special (.inr rfl) h⟩
  | link _ hname hget _ =>
    cases hstop
    exact ⟨_, .link hname.1 hname.2.1 hget htarget hrest⟩
  | enter _ hname he hget _ ih =>
    obtain ⟨total, h⟩ := ih hstop
    exact ⟨total, .enter hname.1 hname.2.1 (fun target => by simpa [hget] using he target) h⟩

/-- Names lead to where a walk along them arrives. -/
theorem follows_of_walk (h : fs.walk true n l names = .ok r) :
    ∃ total, Follows fs total l names r.location := by
  induction n generalizing l names with
  | zero =>
    rcases walk_eq_ok h with hstops | ⟨m, _, _, _, hm, -, -⟩
    · exact ⟨0, hstops.follows rfl⟩
    · cases hm
  | succ n ih =>
    rcases walk_eq_ok h with hstops | ⟨m, directory, target, rest, hm, hstops, hwalk⟩
    · exact ⟨0, hstops.follows rfl⟩
    · obtain rfl := Nat.succ.inj hm
      obtain ⟨total, hfollows⟩ := ih hwalk
      obtain ⟨j, mid, i, htarget, hrest⟩ := hfollows.of_append
      exact hstops.follows_link rfl htarget.of_namesOf hrest

/-! ## Resolving -/

/-- A link takes a number of links to follow, itself not counted. -/
def Takes (fs : FileSystem) (f : Location) (m : Nat) : Prop :=
  ∃ d name target mid, f = d ++ [name] ∧ fs.get? f = some (.link target) ∧
    Follows fs m (startOf d target) (components target.toList) mid

theorem Takes.unique {f : Location} (h : Takes fs f m) (h' : Takes fs f n) : m = n := by
  obtain ⟨d, name, target, mid, rfl, hget, hfollows⟩ := h
  obtain ⟨d', name', target', mid', hf, hget', hfollows'⟩ := h'
  obtain ⟨rfl, -⟩ := List.append_inj' hf rfl
  cases hget.symm.trans hget'
  exact (hfollows.unique hfollows').1

/-- The links that are being followed, while names are followed that take `n` links: they are
different links, each takes at least `n`, and there is room for all others. -/
structure Pending (fs : FileSystem) (n fuel : Nat) (followed : List Location) : Prop where
  nodup : followed.Nodup
  takes : ∀ f ∈ followed, ∃ m, n ≤ m ∧ Takes fs f m
  room : fs.entries.length ≤ fuel + followed.length

theorem Pending.of_le (h : Pending fs n fuel followed) (hm : m ≤ n) :
    Pending fs m fuel followed where
  nodup := h.nodup
  takes := fun f hf => by
    obtain ⟨j, hj, htakes⟩ := h.takes f hf
    exact ⟨j, Nat.le_trans hm hj, htakes⟩
  room := h.room

/-- There are no more links than entries. -/
theorem length_le_of_takes (hnodup : followed.Nodup)
    (htakes : ∀ f ∈ followed, ∃ m, Takes fs f m) : followed.length ≤ fs.entries.length := by
  have hsubset : followed ⊆ fs.entries.map Prod.fst := by
    intro f hf
    obtain ⟨m, d, name, target, mid, rfl, hget, -⟩ := htakes f hf
    rw [get?, entryAmong, if_neg (by simp)] at hget
    obtain ⟨before, after, hentries, -⟩ := List.lookup_eq_some_iff.mp hget
    rw [hentries]
    simp
  simpa using (List.subperm_of_subset hnodup hsubset).length_le

/-- A link that comes up in following names is none of those that are being followed already. -/
theorem Pending.cons {f : Location} (h : Pending fs (m + 1 + n) fuel followed)
    (hf : Takes fs f m) : f ∉ followed ∧ ∃ less, fuel = less + 1 ∧
      Pending fs m less (f :: followed) := by
  have hnew : f ∉ followed := by
    intro hmem
    obtain ⟨j, hj, htakes⟩ := h.takes f hmem
    have := hf.unique htakes
    omega
  have hnodup : (f :: followed).Nodup := List.nodup_cons.mpr ⟨hnew, h.nodup⟩
  have htakes : ∀ f' ∈ f :: followed, ∃ j, m ≤ j ∧ Takes fs f' j := by
    rintro f' (_ | ⟨_, hmem⟩)
    · exact ⟨m, Nat.le_refl m, hf⟩
    · exact (h.of_le (m := m) (by omega)).takes f' hmem
  have hlength := length_le_of_takes hnodup fun f' hmem => (htakes f' hmem).imp fun _ hj => hj.2
  have hroom := h.room
  rw [List.length_cons] at hlength
  refine ⟨hnew, fuel - 1, by omega, hnodup, htakes, ?_⟩
  rw [List.length_cons]
  omega

theorem resolveFrom_special (hname : name = "." ∨ name = "..") :
    fs.resolveFrom fuel followed l (name :: rest) =
      fs.resolveFrom fuel followed (lexicalStep l name) rest := by
  rw [resolveFrom, resolveFrom, List.foldl_cons]
  simp [hname]

theorem resolveFrom_enter (hdot : name ≠ ".") (hdots : name ≠ "..")
    (hget : ∀ target, fs.get? (l ++ [name]) ≠ some (.link target)) :
    fs.resolveFrom fuel followed l (name :: rest) =
      fs.resolveFrom fuel followed (l ++ [name]) rest := by
  rw [resolveFrom, resolveFrom, List.foldl_cons]
  simp only [hdot, hdots, Bool.not_true, decide_false, Bool.or_self, Bool.false_eq_true, ↓reduceIte]

theorem resolveFrom_link (hdot : name ≠ ".") (hdots : name ≠ "..")
    (hget : fs.get? (l ++ [name]) = some (.link target)) (hnew : l ++ [name] ∉ followed)
    (htarget : fs.resolveFrom fuel ((l ++ [name]) :: followed) (startOf l target)
      (components target.toList) = ⟨mid, true⟩) :
    fs.resolveFrom (fuel + 1) followed l (name :: rest) =
      fs.resolveFrom (fuel + 1) followed mid rest := by
  rw [resolveFrom, resolveFrom, List.foldl_cons]
  simp only [hdot, hdots, Bool.not_true, decide_false, Bool.or_self, Bool.false_eq_true, ↓reduceIte,
    hget, htarget]
  simp [hnew]

/-- Resolving follows names to their end, if it has not lost its way before. -/
theorem Follows.resolveFrom_eq (h : Follows fs n l names k) (hpending : Pending fs n fuel followed) :
    fs.resolveFrom fuel followed l names = ⟨k, true⟩ := by
  induction h generalizing fuel followed with
  | here l => rw [resolveFrom, List.foldl_nil]
  | special hname _ ih => rw [resolveFrom_special hname, ih hpending]
  | enter hdot hdots hget _ ih => rw [resolveFrom_enter hdot hdots hget, ih hpending]
  | link hdot hdots hget htarget _ ihtarget ih =>
    obtain ⟨hnew, less, rfl, hnested⟩ := hpending.cons ⟨_, _, _, _, rfl, hget, htarget⟩
    rw [resolveFrom_link hdot hdots hget hnew (ihtarget hnested)]
    exact ih (hpending.of_le (by omega))

/-- Where names lead from a start, resolving finds it. -/
theorem Follows.resolve_eq (h : Follows fs n (startOf cwd path) (components path.toList) k) :
    fs.resolve cwd path = ⟨k, true⟩ :=
  h.resolveFrom_eq ⟨List.nodup_nil, by simp, by simp⟩

/-- **Resolving.**  Where a path leads, the path that it is resolved to is that of the location it
leads to. -/
theorem resolve_of_reach (h : fs.reach cwd path true = .ok r) :
    fs.resolve cwd path = ⟨r.location, true⟩ := by
  obtain ⟨total, hfollows⟩ := follows_of_walk (reach_eq_ok h)
  exact hfollows.of_namesOf.resolve_eq

end MethodMacros.FileSystem
