import MethodMacros.FileSystem.Operations

/-!
# Walks in changing file systems

A walk along a path depends on the directories and links on its way and on the entry at its end, and
on nothing else.  So it ends at the same location in every file system that agrees in these entries;
what it reaches there is whatever that file system holds.  From this statement, `reach_transfer`, it
follows how a path fares when something is put where nothing was, or when a file is taken away.

* `KeepsWays`, `Arrives`: the directories and links of one file system are those of another one, and
  what a walk reaches is not more than that other one holds.  An end can be arrived at if it is the
  same in both (`arrives_of_reach`) or holds no link in the other (`Arrives.of_isFinal`).
* `walk_eq_ok`, `Stops.walk_eq`, `Stops.walk_succ_eq`: a walk is taken apart at its links, and put
  together again.
* `exists_directory_of_reach`, `admits_of_vacant`: where a path leads to a free place something can
  be put there, for the walk has come through the directory around it.
* `Keeps`, `reach_insert_of_vacant`: nothing is taken away, and what a path leads to when something
  has been put at the free place that it led to.

## Stops

Between two links a walk goes through names one by one.  The relation `Stops` has a case for each
way in which such a part of a walk can succeed, and none for the ways in which it can fail.
-/

namespace MethodMacros

/-- An entry that no walk is led away from. -/
def Entry.IsFinal (e : Entry) : Prop := ∀ target, e ≠ .link target

/-- An entry that no walk goes through. -/
def Entry.IsFile (e : Entry) : Prop := ∃ node, e = .file node

theorem isFinal_file (node : FileNode) : (Entry.file node).IsFinal := by
  rintro target ⟨⟩

theorem isFinal_directory (mode : Nat) : (Entry.directory mode).IsFinal := by
  rintro target ⟨⟩

theorem not_isFile_directory (mode : Nat) : ¬ (Entry.directory mode).IsFile := by
  rintro ⟨node, h⟩
  cases h

theorem not_isFile_link (target : String) : ¬ (Entry.link target).IsFile := by
  rintro ⟨node, h⟩
  cases h

namespace FileSystem

/-- The location that a walk ends at. -/
def Reached.location : Reached → Location
  | .found l _ => l
  | .vacant l => l

@[simp] theorem Reached.location_found (l : Location) (e : Entry) :
    (Reached.found l e).location = l := rfl

@[simp] theorem Reached.location_vacant (l : Location) : (Reached.vacant l).location = l := rfl

/-- What a walk reaches that ends at a location. -/
def reachedAt (fs : FileSystem) (l : Location) : Reached :=
  match fs.get? l with
  | some e => .found l e
  | none => .vacant l

theorem reachedAt_of_some {fs : FileSystem} {l : Location} {e : Entry} (h : fs.get? l = some e) : fs.reachedAt l = .found l e := by
  simp only [reachedAt, h]

theorem reachedAt_of_none {fs : FileSystem} {l : Location} (h : fs.get? l = none) : fs.reachedAt l = .vacant l := by
  simp only [reachedAt, h]

@[simp] theorem location_reachedAt (fs : FileSystem) (l : Location) :
    (fs.reachedAt l).location = l := by
  unfold reachedAt
  split <;> rfl

/-! ## Stops -/

/-- A name that leads to an entry of its own. -/
def IsEntryName (name : String) : Prop :=
  name ≠ "." ∧ name ≠ ".." ∧ ¬ nameLimit < name.utf8ByteSize

/-- How names lead to the end of a walk, or to a link that is to be followed. -/
inductive Stops (fs : FileSystem) (followLast : Bool) : Location → List String → Stop → Prop where
  | here {l : Location} {e : Entry} (h : fs.get? l = some e) :
      Stops fs followLast l [] (.reached (.found l e))
  | stay {l : Location} {mode : Nat} {rest : List String} {stop : Stop}
      (hl : fs.get? l = some (.directory mode)) (h : Stops fs followLast l rest stop) :
      Stops fs followLast l ("." :: rest) stop
  | up {l : Location} {mode : Nat} {rest : List String} {stop : Stop}
      (hl : fs.get? l = some (.directory mode)) (h : Stops fs followLast l.dropLast rest stop) :
      Stops fs followLast l (".." :: rest) stop
  | vacant {l : Location} {mode : Nat} {name : String} (hl : fs.get? l = some (.directory mode))
      (hname : IsEntryName name) (h : fs.get? (l ++ [name]) = none) :
      Stops fs followLast l [name] (.reached (.vacant (l ++ [name])))
  | lastLink {l : Location} {mode : Nat} {name target : String}
      (hl : fs.get? l = some (.directory mode)) (hname : IsEntryName name)
      (h : fs.get? (l ++ [name]) = some (.link target)) (hlast : followLast = false) :
      Stops fs followLast l [name] (.reached (.found (l ++ [name]) (.link target)))
  | link {l : Location} {mode : Nat} {name target : String} {rest : List String}
      (hl : fs.get? l = some (.directory mode)) (hname : IsEntryName name)
      (h : fs.get? (l ++ [name]) = some (.link target)) (hrest : rest ≠ [] ∨ followLast = true) :
      Stops fs followLast l (name :: rest) (.link l target rest)
  | enter {l : Location} {mode : Nat} {name : String} {e : Entry} {rest : List String} {stop : Stop}
      (hl : fs.get? l = some (.directory mode)) (hname : IsEntryName name) (he : e.IsFinal)
      (hget : fs.get? (l ++ [name]) = some e) (h : Stops fs followLast (l ++ [name]) rest stop) :
      Stops fs followLast l (name :: rest) stop

variable {fs fs' : FileSystem} {followLast : Bool} {l k : Location} {e : Entry} {r : Reached}
variable {names rest : List String} {stop : Stop} {n : Nat}

theorem stops_of_steps (h : fs.steps followLast l names = stop) (hstop : ∀ e, stop ≠ .failed e) :
    Stops fs followLast l names stop := by
  subst h
  fun_induction steps fs followLast l names with
  | case1 l e hget => exact .here hget
  | case3 l rest mode hl ih => exact .stay hl (ih hstop)
  | case4 l rest mode hl hne ih => exact .up hl (ih hstop)
  | case6 l name rest mode hl hdot hdots hlong hnone hrest =>
    obtain rfl := List.isEmpty_iff.mp hrest
    exact .vacant hl ⟨hdot, hdots, hlong⟩ hnone
  | case8 l name rest mode hl hdot hdots hlong target hlink hlast =>
    rw [Bool.and_eq_true, List.isEmpty_iff] at hlast
    obtain ⟨rfl, hlast⟩ := hlast
    exact .lastLink hl ⟨hdot, hdots, hlong⟩ hlink (by simpa using hlast)
  | case9 l name rest mode hl hdot hdots hlong target hlink hgo =>
    refine .link hl ⟨hdot, hdots, hlong⟩ hlink ?_
    rw [Bool.and_eq_true, List.isEmpty_iff] at hgo
    rcases followLast with _ | _
    · exact .inl fun hnil => hgo ⟨hnil, rfl⟩
    · exact .inr rfl
  | case10 l name rest mode hl hdot hdots hlong e he hget ih =>
    exact .enter hl ⟨hdot, hdots, hlong⟩ he hget (ih hstop)
  | _ => exact absurd rfl (hstop _)

theorem Stops.steps_eq (h : Stops fs followLast l names stop) :
    fs.steps followLast l names = stop := by
  induction h with
  | here h => simp only [steps, h]
  | stay hl _ ih => simp only [steps, hl, ↓reduceIte, ih]
  | up hl _ ih =>
    have hne : ¬ ".." = "." := by decide
    simp only [steps, hl, hne, ↓reduceIte, ih]
  | vacant hl hname h =>
    obtain ⟨hdot, hdots, hlong⟩ := hname
    simp only [steps, hl, hdot, hdots, hlong, h, ↓reduceIte, List.isEmpty_nil]
  | lastLink hl hname h hlast =>
    obtain ⟨hdot, hdots, hlong⟩ := hname
    simp only [steps, hl, hdot, hdots, hlong, h, hlast, ↓reduceIte, List.isEmpty_nil,
      Bool.not_false, Bool.and_self]
  | @link l mode name target rest hl hname h hrest =>
    obtain ⟨hdot, hdots, hlong⟩ := hname
    have hgo : (rest.isEmpty && !followLast) = false := by
      rcases hrest with hrest | rfl
      · rw [List.isEmpty_eq_false_iff.mpr hrest, Bool.false_and]
      · rw [Bool.not_true, Bool.and_false]
    simp only [steps, hl, hdot, hdots, hlong, h, hgo, ↓reduceIte, Bool.false_eq_true]
  | @enter l mode name e rest stop hl hname he hget _ ih =>
    obtain ⟨hdot, hdots, hlong⟩ := hname
    simp only [steps, hl, hdot, hdots, hlong, hget, ↓reduceIte]
    cases e with
    | link target => exact absurd rfl (he target)
    | directory mode => exact ih
    | file node => exact ih

/-- From a file no name leads on. -/
theorem Stops.of_file {node : FileNode} (h : Stops fs followLast l names stop)
    (hl : fs.get? l = some (.file node)) : names = [] ∧ stop = .reached (.found l (.file node)) := by
  cases h with
  | here h =>
    rw [hl] at h
    obtain rfl := Option.some.inj h
    exact ⟨rfl, rfl⟩
  | stay h => cases hl.symm.trans h
  | up h => cases hl.symm.trans h
  | vacant h => cases hl.symm.trans h
  | lastLink h => cases hl.symm.trans h
  | link h => cases hl.symm.trans h
  | enter h => cases hl.symm.trans h

/-- Names that lead to no entries of their own lead to something that exists. -/
theorem Stops.found_of_not_isEntryName (h : Stops fs followLast l names stop)
    (hnames : ∀ name ∈ names, ¬ IsEntryName name) : ∃ k e, stop = .reached (.found k e) := by
  induction h with
  | here => exact ⟨_, _, rfl⟩
  | stay _ _ ih => exact ih fun name hname => hnames name (List.mem_cons_of_mem _ hname)
  | up _ _ ih => exact ih fun name hname => hnames name (List.mem_cons_of_mem _ hname)
  | vacant _ hname => exact absurd hname (hnames _ List.mem_cons_self)
  | lastLink _ hname => exact absurd hname (hnames _ List.mem_cons_self)
  | link _ hname => exact absurd hname (hnames _ List.mem_cons_self)
  | enter _ hname => exact absurd hname (hnames _ List.mem_cons_self)

/-- A walk reaches what there is where it ends. -/
theorem Stops.reached_eq (h : Stops fs followLast l names (.reached r)) :
    r = fs.reachedAt r.location := by
  generalize hstop : Stop.reached r = stop at h
  induction h with
  | here h =>
    cases hstop
    exact (reachedAt_of_some h).symm
  | stay _ _ ih => exact ih hstop
  | up _ _ ih => exact ih hstop
  | vacant _ _ h =>
    cases hstop
    exact (reachedAt_of_none h).symm
  | lastLink _ _ h =>
    cases hstop
    exact (reachedAt_of_some h).symm
  | link => cases hstop
  | enter _ _ _ _ _ ih => exact ih hstop

/-- To follow a last link or not makes a difference only if there is one. -/
theorem Stops.of_false (h : Stops fs false l names stop)
    (hstop : ∀ k target, stop ≠ .reached (.found k (.link target))) : Stops fs true l names stop := by
  induction h with
  | here h => exact .here h
  | stay hl _ ih => exact .stay hl (ih hstop)
  | up hl _ ih => exact .up hl (ih hstop)
  | vacant hl hname h => exact .vacant hl hname h
  | lastLink => exact absurd rfl (hstop _ _)
  | link hl hname h _ => exact .link hl hname h (.inr rfl)
  | enter hl hname he hget _ ih => exact .enter hl hname he hget (ih hstop)

/-! ## Walks in another file system -/

/-- Another file system holds the same directories and links, and possibly more. -/
def KeepsWays (fs fs' : FileSystem) : Prop :=
  ∀ k e, ¬ e.IsFile → fs.get? k = some e → fs'.get? k = some e

/-- At the end of a walk another file system holds something, if it has to, and no link that the
walk would not have met. -/
def Arrives (fs' : FileSystem) : Reached → Prop
  | .found k (.file _) => ∃ e, fs'.get? k = some e ∧ e.IsFinal
  | .found _ _ => True
  | .vacant k => ∀ e, fs'.get? k = some e → e.IsFinal

/-- A place can be arrived at if no walk is led away from what is there. -/
theorem Arrives.of_isFinal (hget : fs'.get? r.location = some e) (he : e.IsFinal) :
    Arrives fs' r := by
  cases r with
  | vacant k =>
    intro e' hget'
    obtain rfl := Option.some.inj (hget.symm.trans hget')
    exact he
  | found k found =>
    cases found with
    | file node => exact ⟨e, hget, he⟩
    | directory mode => trivial
    | link target => trivial

/-- Where a walk finds something it does so in the other file system. -/
theorem Arrives.get?_of_found (hways : KeepsWays fs fs') (h : Arrives fs' (.found k e))
    (hget : fs.get? k = some e) : ∃ e', fs'.get? k = some e' := by
  cases e with
  | directory mode => exact ⟨_, hways _ _ (not_isFile_directory _) hget⟩
  | link target => exact ⟨_, hways _ _ (not_isFile_link _) hget⟩
  | file node =>
    obtain ⟨e', hget', -⟩ := h
    exact ⟨e', hget'⟩

theorem Stops.link_transfer (hways : KeepsWays fs fs') {target : String}
    (h : Stops fs followLast l names (.link k target rest)) :
    Stops fs' followLast l names (.link k target rest) := by
  generalize hstop : Stop.link k target rest = stop at h
  induction h with
  | here => cases hstop
  | stay hl _ ih => exact .stay (hways _ _ (not_isFile_directory _) hl) (ih hstop)
  | up hl _ ih => exact .up (hways _ _ (not_isFile_directory _) hl) (ih hstop)
  | vacant => cases hstop
  | lastLink => cases hstop
  | link hl hname h hrest =>
    exact .link (hways _ _ (not_isFile_directory _) hl) hname (hways _ _ (not_isFile_link _) h) hrest
  | @enter l mode name e rest stop hl hname he hget h ih =>
    have hl' := hways _ _ (not_isFile_directory _) hl
    by_cases hfile : e.IsFile
    · obtain ⟨node, rfl⟩ := hfile
      rw [(h.of_file hget).2] at hstop
      cases hstop
    · exact .enter hl' hname he (hways _ _ hfile hget) (ih hstop)

theorem Stops.transfer (hways : KeepsWays fs fs') (hr : Arrives fs' r)
    (h : Stops fs followLast l names (.reached r)) :
    Stops fs' followLast l names (.reached (fs'.reachedAt r.location)) := by
  generalize hstop : Stop.reached r = stop at h
  induction h with
  | here h =>
    cases hstop
    obtain ⟨e', hget⟩ := hr.get?_of_found hways h
    rw [Reached.location_found, reachedAt_of_some hget]
    exact .here hget
  | stay hl _ ih => exact .stay (hways _ _ (not_isFile_directory _) hl) (ih hstop)
  | up hl _ ih => exact .up (hways _ _ (not_isFile_directory _) hl) (ih hstop)
  | @vacant l mode name hl hname h =>
    cases hstop
    have hl' := hways _ _ (not_isFile_directory _) hl
    rw [Reached.location_vacant]
    cases hget : fs'.get? (l ++ [name]) with
    | none =>
      rw [reachedAt_of_none hget]
      exact .vacant hl' hname hget
    | some e =>
      rw [reachedAt_of_some hget]
      exact .enter hl' hname (hr e hget) hget (.here hget)
  | lastLink hl hname h hlast =>
    cases hstop
    have hget := hways _ _ (not_isFile_link _) h
    rw [Reached.location_found, reachedAt_of_some hget]
    exact .lastLink (hways _ _ (not_isFile_directory _) hl) hname hget hlast
  | link => cases hstop
  | @enter l mode name e rest stop hl hname he hget h ih =>
    have hl' := hways _ _ (not_isFile_directory _) hl
    by_cases hfile : e.IsFile
    · obtain ⟨node, rfl⟩ := hfile
      obtain ⟨rfl, hend⟩ := h.of_file hget
      obtain rfl := Stop.reached.inj (hstop.trans hend)
      obtain ⟨e', hget', he'⟩ := hr
      exact .enter hl' hname he' hget' (ih hstop)
    · exact .enter hl' hname he (hways _ _ hfile hget) (ih hstop)

/-- A walk arrives with its first steps, or follows a link and arrives from there. -/
theorem walk_eq_ok (h : fs.walk followLast n l names = .ok r) :
    Stops fs followLast l names (.reached r) ∨
      ∃ m directory target rest, n = m + 1 ∧
        Stops fs followLast l names (.link directory target rest) ∧
        fs.walk followLast m (startOf directory target) (namesOf target ++ rest) = .ok r := by
  cases hstop : fs.steps followLast l names with
  | reached r' =>
    unfold walk at h
    simp only [hstop] at h
    obtain rfl := Except.ok.inj h
    exact .inl (stops_of_steps hstop (by simp))
  | failed e =>
    unfold walk at h
    simp only [hstop] at h
    cases h
  | link directory target rest =>
    cases n with
    | zero =>
      unfold walk at h
      simp only [hstop] at h
      cases h
    | succ m =>
      unfold walk at h
      simp only [hstop] at h
      exact .inr ⟨m, directory, target, rest, rfl, stops_of_steps hstop (by simp), h⟩

theorem Stops.walk_eq (h : Stops fs followLast l names (.reached r)) (n : Nat) :
    fs.walk followLast n l names = .ok r := by
  unfold walk
  simp only [h.steps_eq]

theorem Stops.walk_succ_eq {directory : Location} {target : String}
    (h : Stops fs followLast l names (.link directory target rest)) (n : Nat) :
    fs.walk followLast (n + 1) l names =
      fs.walk followLast n (startOf directory target) (namesOf target ++ rest) := by
  conv => lhs; unfold walk
  simp only [h.steps_eq]

/-- A walk that arrives does so in a file system with the same ways, where it finds what is
there. -/
theorem walk_transfer (hways : KeepsWays fs fs') (hr : Arrives fs' r)
    (h : fs.walk followLast n l names = .ok r) :
    fs'.walk followLast n l names = .ok (fs'.reachedAt r.location) := by
  induction n generalizing l names with
  | zero =>
    rcases walk_eq_ok h with hstops | ⟨m, _, _, _, hm, -, -⟩
    · exact (hstops.transfer hways hr).walk_eq 0
    · cases hm
  | succ n ih =>
    rcases walk_eq_ok h with hstops | ⟨m, directory, target, rest, hm, hstops, hwalk⟩
    · exact (hstops.transfer hways hr).walk_eq (n + 1)
    · obtain rfl := Nat.succ.inj hm
      rw [(hstops.link_transfer hways).walk_succ_eq]
      exact ih hwalk

theorem walk_reached_eq (h : fs.walk followLast n l names = .ok r) :
    r = fs.reachedAt r.location := by
  induction n generalizing l names with
  | zero =>
    rcases walk_eq_ok h with hstops | ⟨m, _, _, _, hm, -, -⟩
    · exact hstops.reached_eq
    · cases hm
  | succ n ih =>
    rcases walk_eq_ok h with hstops | ⟨m, directory, target, rest, hm, -, hwalk⟩
    · exact hstops.reached_eq
    · obtain rfl := Nat.succ.inj hm
      exact ih hwalk

theorem walk_of_false (hr : ∀ k target, r ≠ .found k (.link target))
    (h : fs.walk false n l names = .ok r) : fs.walk true n l names = .ok r := by
  induction n generalizing l names with
  | zero =>
    rcases walk_eq_ok h with hstops | ⟨m, _, _, _, hm, -, -⟩
    · exact (hstops.of_false (by simpa using hr)).walk_eq 0
    · cases hm
  | succ n ih =>
    rcases walk_eq_ok h with hstops | ⟨m, directory, target, rest, hm, hstops, hwalk⟩
    · exact (hstops.of_false (by simpa using hr)).walk_eq (n + 1)
    · obtain rfl := Nat.succ.inj hm
      rw [(hstops.of_false (by simp)).walk_succ_eq]
      exact ih hwalk

/-! ## Paths in another file system -/

variable {cwd : Location} {path : String}

theorem reach_eq_ok (h : fs.reach cwd path followLast = .ok r) :
    fs.walk followLast linkLimit (startOf cwd path) (namesOf path) = .ok r := by
  unfold reach at h
  split at h
  · cases h
  · split at h
    · cases h
    · exact h

/-- A path that can be followed at all is followed along its names. -/
theorem reach_of_walk {followLast' : Bool} {r' : Reached}
    (h : fs.reach cwd path followLast = .ok r)
    (hwalk : fs'.walk followLast' linkLimit (startOf cwd path) (namesOf path) = .ok r') :
    fs'.reach cwd path followLast' = .ok r' := by
  unfold reach at h ⊢
  split at h
  · cases h
  · split at h
    · cases h
    · rename_i hempty hlong
      rwa [if_neg hempty, if_neg hlong]

/-- A path leads to the same location in every file system with the same ways. -/
theorem reach_transfer (hways : KeepsWays fs fs') (h : fs.reach cwd path followLast = .ok r)
    (hr : Arrives fs' r) :
    fs'.reach cwd path followLast = .ok (fs'.reachedAt r.location) :=
  reach_of_walk h (walk_transfer hways hr (reach_eq_ok h))

theorem reach_reached_eq (h : fs.reach cwd path followLast = .ok r) :
    r = fs.reachedAt r.location :=
  walk_reached_eq (reach_eq_ok h)

theorem get?_of_reach_found (h : fs.reach cwd path followLast = .ok (.found k e)) :
    fs.get? k = some e := by
  have hreached := reach_reached_eq h
  rw [Reached.location_found] at hreached
  cases hget : fs.get? k with
  | none =>
    rw [reachedAt_of_none hget] at hreached
    cases hreached
  | some e' =>
    rw [reachedAt_of_some hget] at hreached
    cases hreached
    rfl

/-- A directory is found by the same paths where the ways are the same. -/
theorem KeepsWays.reach_directory {mode : Nat} (hways : KeepsWays fs fs')
    (h : fs.reach cwd path followLast = .ok (.found k (.directory mode))) :
    fs'.reach cwd path followLast = .ok (.found k (.directory mode)) := by
  have hget := hways _ _ (not_isFile_directory mode) (get?_of_reach_found h)
  have hreach := reach_transfer hways h trivial
  rwa [Reached.location_found, reachedAt_of_some hget] at hreach

theorem get?_of_reach_vacant (h : fs.reach cwd path followLast = .ok (.vacant k)) :
    fs.get? k = none := by
  have hreached := reach_reached_eq h
  rw [Reached.location_vacant] at hreached
  cases hget : fs.get? k with
  | none => rfl
  | some e =>
    rw [reachedAt_of_some hget] at hreached
    cases hreached

/-- Only a path with the name of an entry in it leads to a free place. -/
theorem exists_isEntryName (h : fs.reach cwd path followLast = .ok (.vacant k)) :
    ∃ name ∈ namesOf path, IsEntryName name := by
  refine Classical.byContradiction fun hnone => ?_
  have hnames : ∀ name ∈ namesOf path, ¬ IsEntryName name := by
    intro name hmem hname
    exact hnone ⟨name, hmem, hname⟩
  rcases walk_eq_ok (reach_eq_ok h) with hstops | ⟨_, _, _, _, -, hstops, -⟩
  · obtain ⟨k', e, hfound⟩ := hstops.found_of_not_isEntryName hnames
    cases hfound
  · obtain ⟨k', e, hfound⟩ := hstops.found_of_not_isEntryName hnames
    cases hfound

/-- What a path leads to without following a last link is reached in any way, if it is no link. -/
theorem reach_of_false (he : e.IsFinal) (h : fs.reach cwd path false = .ok (.found k e)) :
    fs.reach cwd path true = .ok (.found k e) := by
  have hr : ∀ k' target, Reached.found k e ≠ .found k' (.link target) := by
    intro k' target heq
    exact he target (Reached.found.inj heq).2
  exact reach_of_walk h (walk_of_false hr (reach_eq_ok h))

/-! ## Free places -/

/-- A free place lies in a directory, and its name is the last of those that lead to it. -/
def IsChild (fs : FileSystem) (names : List String) (k : Location) : Prop :=
  ∃ d name mode, k = d ++ [name] ∧ fs.get? d = some (.directory mode) ∧ names.getLast? = some name

theorem IsChild.cons {name : String} (h : IsChild fs names k) : IsChild fs (name :: names) k := by
  obtain ⟨d, last, mode, hk, hd, hlast⟩ := h
  exact ⟨d, last, mode, hk, hd, by rw [List.getLast?_cons, hlast, Option.getD_some]⟩

theorem Stops.isChild (h : Stops fs followLast l names stop)
    (hstop : stop = .reached (.vacant k)) : IsChild fs names k := by
  induction h with
  | here => cases hstop
  | stay _ _ ih => exact (ih hstop).cons
  | up _ _ ih => exact (ih hstop).cons
  | vacant hl _ _ =>
    cases hstop
    exact ⟨_, _, _, rfl, hl, rfl⟩
  | lastLink => cases hstop
  | link => cases hstop
  | enter _ _ _ _ _ ih => exact (ih hstop).cons

/-- A free place that a walk arrives at lies in a directory. -/
theorem exists_directory_of_walk (h : fs.walk followLast n l names = .ok (.vacant k)) :
    ∃ d name mode, k = d ++ [name] ∧ fs.get? d = some (.directory mode) := by
  induction n generalizing l names with
  | zero =>
    rcases walk_eq_ok h with hstops | ⟨m, _, _, _, hm, -, -⟩
    · obtain ⟨d, name, mode, hk, hd, -⟩ := hstops.isChild rfl
      exact ⟨d, name, mode, hk, hd⟩
    · cases hm
  | succ n ih =>
    rcases walk_eq_ok h with hstops | ⟨m, directory, target, rest, hm, hstops, hwalk⟩
    · obtain ⟨d, name, mode, hk, hd, -⟩ := hstops.isChild rfl
      exact ⟨d, name, mode, hk, hd⟩
    · obtain rfl := Nat.succ.inj hm
      exact ih hwalk

/-! ## Changes at one location -/

/-- The root directory is never missing. -/
theorem ne_nil_of_get?_eq_none (h : fs.get? k = none) : k ≠ [] := by
  rintro rfl
  cases h

/-- What a path leads to lies in a directory. -/
theorem exists_directory_of_reach (h : fs.reach cwd path followLast = .ok r) :
    ∃ mode, fs.get? r.location.dropLast = some (.directory mode) := by
  cases r with
  | found k e => exact fs.exists_directory (get?_of_reach_found h)
  | vacant k =>
    obtain ⟨d, name, mode, rfl, hd⟩ := exists_directory_of_walk (reach_eq_ok h)
    exact ⟨mode, by rwa [Reached.location_vacant, List.dropLast_concat]⟩

/-- Anything can be put at a free place that a path leads to. -/
theorem admits_of_vacant (h : fs.reach cwd path followLast = .ok (.vacant k)) (e : Entry) :
    fs.admits k e = true := by
  obtain ⟨mode, hparent⟩ := exists_directory_of_reach h
  refine admits_eq_true hparent (.inr fun mode hmode => ?_)
  cases (get?_of_reach_vacant h).symm.trans hmode

/-- Another file system holds all that one does, and possibly more. -/
def Keeps (fs fs' : FileSystem) : Prop :=
  ∀ k e, fs.get? k = some e → fs'.get? k = some e

theorem Keeps.keepsWays (h : Keeps fs fs') : KeepsWays fs fs' := fun k e _ hget => h k e hget

theorem keeps_insert (hk : fs.get? k = none) (e : Entry) : Keeps fs (fs.insert k e) := by
  intro l e' h
  have hne : l ≠ k := by
    rintro rfl
    cases hk.symm.trans h
  rw [get?_insert_of_ne fs e hne, h]

/-- The end of a path can be arrived at where it has not changed. -/
theorem arrives_of_reach (h : fs.reach cwd path followLast = .ok r)
    (hsame : fs'.get? r.location = fs.get? r.location) : Arrives fs' r := by
  cases r with
  | vacant k =>
    intro e hget
    cases hget.symm.trans (hsame.trans (get?_of_reach_vacant h))
  | found k e =>
    cases e with
    | file node => exact ⟨_, hsame.trans (get?_of_reach_found h), isFinal_file node⟩
    | directory mode => trivial
    | link target => trivial

/-- What a path leads to is still found where everything is kept. -/
theorem Keeps.reach_found (hkeeps : Keeps fs fs')
    (h : fs.reach cwd path followLast = .ok (.found l e)) :
    fs'.reach cwd path followLast = .ok (.found l e) := by
  have hget := hkeeps l e (get?_of_reach_found h)
  have harrives : Arrives fs' (.found l e) :=
    arrives_of_reach h (hget.trans (get?_of_reach_found h).symm)
  have hreach := reach_transfer hkeeps.keepsWays h harrives
  rwa [Reached.location_found, reachedAt_of_some hget] at hreach

/-- What is put at the free place that a path leads to is found there. -/
theorem reach_insert_of_vacant (he : e.IsFinal)
    (h : fs.reach cwd path followLast = .ok (.vacant k)) :
    (fs.insert k e).reach cwd path followLast = .ok (.found k e) := by
  have hk := get?_of_reach_vacant h
  have hget := get?_insert_self (admits_of_vacant h e) (ne_nil_of_get?_eq_none hk)
  have hreach := reach_transfer (keeps_insert hk e).keepsWays h (.of_isFinal hget he)
  rwa [Reached.location_vacant, reachedAt_of_some hget] at hreach

end FileSystem

end MethodMacros
